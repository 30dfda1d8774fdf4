/-
  Subject:   The oracle path end to end: gateway, workflow, consumer, executor.

  The gateway hashes a request with the policy's ID; the workflow allows it only for a policy
  of that id and reports the policy's COMMITMENT; the consumer records both; and the executor
  asks that one value, the capability's policy hash, equal the commitment and reproduce the
  gateway's hash. So the path closes exactly for requests whose policy id is the commitment.
-/
import ContextLock.Policy.Workflow
import ContextLock.Contracts.Provision

namespace ContextLock

open Evm
open AuthorizationRegistry (Authorization Verdict)
open CreConsumer (Report computeAuthorizationId)
open Policy (PrivatePolicy MarketContext PolicyDecision policyCommitment onCapabilityRequested)

/-! ## 1. What a report leaves -/

def CreConsumer.Report.authorizationId (r : Report) : Bytes32 :=
  computeAuthorizationId r.requestHash r.policyCommitment r.evaluatedAt

def CreConsumer.Report.authorization (r : Report) (v : Verdict) : Authorization where
  requestHash := r.requestHash
  policyHash := r.policyCommitment
  contextCommitment := r.contextCommitment
  evaluatedAt := r.evaluatedAt
  approvedUntil := r.validUntil
  verdict := v

theorem getAuthorization_update (reg : AuthorizationRegistry.Storage) (i : Bytes32)
    (auth : Authorization) :
    ({ reg with authorizations := Function.update reg.authorizations i auth } :
      AuthorizationRegistry.Storage).getAuthorization i = auth := by
  simp [AuthorizationRegistry.Storage.getAuthorization]

/-- **A delivered report is recorded under its own id.** -/
theorem recorded_of_report {this sender : Address} {cs : CreConsumer.Storage}
    {reg reg' : AuthorizationRegistry.Storage} {r : Report}
    (h : CreConsumer.onReport sender cs this reg r.encode = .ok reg') :
    ∃ v, Verdict.ofUint8 r.verdict = some v ∧
      reg'.getAuthorization r.authorizationId = r.authorization v := by
  obtain ⟨_, _, _, r', v, hr', hv, hrec⟩ := CreConsumer.onReport_ok h
  rw [CreConsumer.decodeReport_encode] at hr'
  cases hr'
  obtain ⟨_, _, _, _, rfl⟩ := AuthorizationRegistry.recordAuthorization_ok hrec
  exact ⟨v, hv, getAuthorization_update reg _ _⟩

/-! ## 2. Capabilities of a request -/

def Gateway.Args.words (d : Deployment) (a : Gateway.Args) : List Bytes32 :=
  ContextLockTypes.requestWords a.agentIdentityHash a.agent d.host.chainid d.executorBinding
    a.target a.value (keccak256 a.callData) a.intentHash a.policyId

/-- A capability carries the transaction of a request, with the nonce and the window it was
    issued for, and names the authorization `i`. -/
structure Carries (d : Deployment) (a : Gateway.Args) (i : Bytes32) (nonce : Uint256)
    (issuedAt expiresAt : Uint64) (cap : Capability) : Prop where
  identity : cap.agentIdentityHash = a.agentIdentityHash
  agent : cap.agent = a.agent
  chainId : cap.chainId = d.host.chainid
  executor : cap.executor = d.executor
  target : cap.target = a.target
  value : cap.value = a.value
  calldataHash : cap.calldataHash = keccak256 a.callData
  nonce : cap.nonce = nonce
  issuedAt : cap.issuedAt = issuedAt
  expiresAt : cap.expiresAt = expiresAt
  authorizationId : cap.authorizationId = i

/-- The capability passes the executor's authorization check throughout the window, in every
    world that still holds the authorization `auth` under the id it names. -/
def PassesThroughout (d : Deployment) (auth : Authorization) (cap : Capability) : Prop :=
  ∀ w : World, w.authorization.getAuthorization cap.authorizationId = auth →
    w.now ≤ toWord auth.approvedUntil →
      Executor.validateAuthorization d w cap (Executor.digest d cap) = .ok ()

/-- A request is SPENDABLE: some capability of it, whose encoding is no hash collision with the
    request's, passes throughout. -/
def SpendableRequest (d : Deployment) (a : Gateway.Args) (i : Bytes32) (auth : Authorization)
    (nonce : Uint256) (issuedAt expiresAt : Uint64) : Prop :=
  ∃ cap, Carries d a i nonce issuedAt expiresAt cap ∧
    NoCollision (abiEncode (ContextLockTypes.capabilityRequestWords cap)) (abiEncode (a.words d)) ∧
    PassesThroughout d auth cap

/-- The capability of a request under a report. -/
def capabilityOf (d : Deployment) (a : Gateway.Args) (r : Report) (nonce : Uint256)
    (issuedAt expiresAt : Uint64) : Capability where
  version := ContextLockTypes.VERSION
  agentIdentityHash := a.agentIdentityHash
  agent := a.agent
  chainId := d.host.chainid
  executor := d.executor
  target := a.target
  value := a.value
  calldataHash := keccak256 a.callData
  intentHash := a.intentHash
  policyHash := a.policyId
  authorizationId := r.authorizationId
  contextCommitment := r.contextCommitment
  issuedAt := issuedAt
  expiresAt := expiresAt
  nonce := nonce

section Path

variable {d : Deployment} {a : Gateway.Args} {r : Report} {nonce : Uint256}
  {issuedAt expiresAt : Uint64}

theorem capabilityOf_words (hb : d.executorBinding = d.executor) :
    ContextLockTypes.capabilityRequestWords (capabilityOf d a r nonce issuedAt expiresAt)
      = a.words d := by
  simp only [ContextLockTypes.capabilityRequestWords, capabilityOf, Gateway.Args.words, hb]

/-- **A recorded ALLOW is spendable exactly where its policy hash is the request's policy id.** -/
theorem spendable_iff (w₀ : World) (hb : d.executorBinding = d.executor)
    (hr : r.requestHash = Gateway.requestHashOf d.host d.executorBinding a) :
    SpendableRequest d a r.authorizationId (r.authorization .allow) nonce issuedAt expiresAt ↔
      a.policyId = r.policyCommitment := by
  constructor
  · rintro ⟨cap, hc, hcol, hpass⟩
    -- any world that holds the authorization will do
    let reg : AuthorizationRegistry.Storage :=
      { w₀.authorization with authorizations := fun _ => r.authorization .allow }
    have hok := hpass { w₀ with authorization := reg, now := 0 } rfl
      (by rw [BitVec.le_def]; exact Nat.zero_le _)
    have hauth := Executor.validateAuthorization_iff.mp hok
    have hreq : r.requestHash = ContextLockTypes.requestHash cap := hauth.requestHash
    have hpol : r.policyCommitment = cap.policyHash := hauth.policyHash
    have hhash : keccak256 (abiEncode (ContextLockTypes.capabilityRequestWords cap))
        = keccak256 (abiEncode (a.words d)) := hreq.symm.trans hr
    have hwords := hcol.words hhash
    obtain ⟨_, _, _, _, _, _, _, _, hp⟩ := ContextLockTypes.requestWords_inj hwords
    exact hp.symm.trans hpol.symm
  · intro hp
    have hw : ContextLockTypes.capabilityRequestWords
        (capabilityOf d a r nonce issuedAt expiresAt) = a.words d := capabilityOf_words hb
    refine ⟨capabilityOf d a r nonce issuedAt expiresAt,
      ⟨rfl, rfl, rfl, rfl, rfl, rfl, rfl, rfl, rfl, rfl, rfl⟩, fun _ => by rw [hw], ?_⟩
    intro w hauth hnow
    have hreq : r.requestHash = ContextLockTypes.requestHash
        (capabilityOf d a r nonce issuedAt expiresAt) := by
      rw [ContextLockTypes.requestHash, hw]
      exact hr
    refine Executor.validateAuthorization_iff.mpr ⟨?_, ?_, ?_, ?_, ?_⟩ <;> rw [hauth]
    · exact .inl rfl
    · exact hreq
    · exact hp.symm
    · rfl
    · exact hnow

/-- **The oracle path, end to end.** For every request the gateway accepts, every policy,
    context and time for which the workflow's evaluation is ALLOW, and every delivery the
    consumer accepts: there is a capability of the request that passes the executor's
    authorization check throughout its window, exactly where the request's policy id is the
    private policy's commitment. -/
theorem cre_path_iff {w : World} {gw' : Gateway.Storage} {q : Bytes32}
    {ev : Gateway.CapabilityRequested} {addressText : Address → String} {policy : PrivatePolicy}
    {ctx : MarketContext} {nowUnix : Int} {decision : PolicyDecision} {sender : Address}
    {reg' : AuthorizationRegistry.Storage} (hb : d.executorBinding = d.executor)
    (hgw : Gateway.requestEvaluation d.host d.executorBinding w.now w.gateway a = .ok (gw', q, ev))
    (hwf : onCapabilityRequested addressText policy ctx nowUnix ev = some (decision, r))
    (hallow : decision.verdict = .allow)
    (hdel : CreConsumer.onReport sender w.consumer d.consumer w.authorization r.encode = .ok reg')
    (nonce : Uint256) (issuedAt expiresAt : Uint64) :
    SpendableRequest d a r.authorizationId (reg'.getAuthorization r.authorizationId) nonce issuedAt
      expiresAt ↔ a.policyId = policyCommitment policy := by
  obtain ⟨_, hq, _, hev⟩ := Gateway.requestEvaluation_ok hgw
  obtain ⟨hrq, hrp, _, hrv, _⟩ := Policy.onCapabilityRequested_ok hwf
  obtain ⟨v, hv, hrec⟩ := recorded_of_report hdel
  have hva : v = .allow := by
    rw [hrv, hallow] at hv
    exact (Option.some.inj hv).symm
  rw [hrec, hva, ← hrp]
  refine spendable_iff w hb ?_
  rw [hrq, hev, hq]

end Path

/-! ## 3. A request whose ALLOW nobody can spend -/

/-- A request to transfer 5 units to the account `0x22`, under the policy id `0x13`. -/
def transferArgs : Gateway.Args where
  agentIdentityHash := 0x11
  agent := 0x44
  ensNode := 0
  target := 0x33
  value := 0
  callData := Policy.transferToCalldata 0x22 5
  intentHash := 0x12
  policyId := 0x13
  policyVersion := 1
  actionKind := 0x16

def plainAddressText (a : Address) : String := Js.hexText 20 a.toNat

/-- A private policy of that id which allows the request. -/
def transferPolicy : PrivatePolicy where
  policyId := Js.hex32 0x13
  policyVersion := .int 1
  enabled := true
  autoLimit := 1000000000
  escalationLimit := 10000000000
  maxSlippageBps := .int 50
  maxVolatilityBps := .int 600
  minLiquidity := 1000000000000
  targetEthAllocationBps := .int 5000
  rebalanceDriftBps := .int 500
  minHealthFactorBps := .int 13500
  targetHealthFactorBps := .int 16000
  proprietaryRiskThreshold := .int 120
  canary := "canary"
  allowedActionKinds := [Js.hex32 0x16]
  allowedTargets := [plainAddressText 0x33]
  authorizedAgentIdentityHashes := [Js.hex32 0x11]

def calmContext : MarketContext where
  observedAtUnix := .int 1000
  slippageBps := .int 10
  volatilityBps := .int 100
  liquidity := 5000000000000
  healthFactorBps := .int 16000

/-- The chain the request is made on: the consumer is the registry's authorizer and takes
    reports from the forwarder `2`. -/
def transferWorld : World :=
  { provisioned sampleDeployment sampleSubmission .none (fun _ => true) 1000 noApprovals with
    consumer := ⟨1, 2, 0⟩
    authorization := ⟨1, sampleDeployment.consumer, fun _ => .zero⟩ }

/-- The event of the request and the report of its evaluation at time 1005. -/
def transferEvent : Gateway.CapabilityRequested where
  requestHash := Gateway.requestHashOf sampleDeployment.host sampleDeployment.executorBinding
    transferArgs
  agentIdentityHash := 0x11
  agent := 0x44
  ensNode := 0
  target := 0x33
  value := 0
  callData := Policy.transferToCalldata 0x22 5
  intentHash := 0x12
  policyId := 0x13
  policyVersion := 1
  actionKind := 0x16

def transferReport : Report where
  requestHash := transferEvent.requestHash
  policyCommitment := policyCommitment transferPolicy
  contextCommitment := Policy.commitContext calmContext
  verdict := 1
  reasonCode := keccakText "ALLOW_POLICY_MATCH"
  evaluatedAt := 1005
  validUntil := 1065

theorem transferReport_requestHash : transferReport.requestHash
    = Gateway.requestHashOf sampleDeployment.host sampleDeployment.executorBinding transferArgs := by
  simp only [transferReport, transferEvent]

theorem transferReport_policyCommitment :
    transferReport.policyCommitment = policyCommitment transferPolicy := by
  simp only [transferReport]

theorem transfer_requested : ∃ gw', Gateway.requestEvaluation sampleDeployment.host
    sampleDeployment.executorBinding transferWorld.now transferWorld.gateway transferArgs
      = .ok (gw', transferEvent.requestHash, transferEvent) := ⟨_, rfl⟩

theorem transfer_evaluated : onCapabilityRequested plainAddressText transferPolicy calmContext 1005
    transferEvent = some (⟨.allow, .ALLOW_POLICY_MATCH, .low, 60⟩, transferReport) := by
  have hd : Policy.decodeAction transferEvent.callData = some _ :=
    Policy.decodeAction_transferTo 0x22 5
  have he : Policy.evaluatePolicy (Policy.evaluationRequest plainAddressText transferEvent
      ⟨selector "transferTo(address,uint256)", 0x22, 5⟩) transferPolicy calmContext 1005
      = ⟨.allow, .ALLOW_POLICY_MATCH, .low, 60⟩ := by decide
  unfold onCapabilityRequested
  rw [hd, Option.bind_eq_bind, Option.bind_some, he]
  rfl

def transferRegistry : AuthorizationRegistry.Storage :=
  { transferWorld.authorization with
    authorizations := Function.update transferWorld.authorization.authorizations
      transferReport.authorizationId (transferReport.authorization .allow) }

theorem transfer_delivered : CreConsumer.onReport 2 transferWorld.consumer sampleDeployment.consumer
    transferWorld.authorization transferReport.encode = .ok transferRegistry :=
  CreConsumer.onReport_encode (v := .allow) rfl (by decide) (by decide) rfl (by decide) rfl

theorem transfer_commitment : transferArgs.policyId ≠ policyCommitment transferPolicy := by
  decide +kernel

theorem transferRegistry_get : transferRegistry.getAuthorization transferReport.authorizationId
    = transferReport.authorization .allow := by
  rw [transferRegistry, getAuthorization_update]

theorem transfer_not_spendable : ¬ SpendableRequest sampleDeployment transferArgs
    transferReport.authorizationId (transferReport.authorization .allow) 0 1000 1300 := by
  intro h
  have hid := (spendable_iff transferWorld rfl transferReport_requestHash).mp h
  exact transfer_commitment (hid.trans transferReport_policyCommitment)

/-- **A request whose ALLOW nobody can spend**: it is accepted, evaluated to ALLOW, its report
    is delivered and recorded, and no capability of it passes the authorization check. -/
theorem cre_path_refuses :
    (∃ gw', Gateway.requestEvaluation sampleDeployment.host sampleDeployment.executorBinding
      transferWorld.now transferWorld.gateway transferArgs
        = .ok (gw', transferEvent.requestHash, transferEvent)) ∧
    onCapabilityRequested plainAddressText transferPolicy calmContext 1005 transferEvent
      = some (⟨.allow, .ALLOW_POLICY_MATCH, .low, 60⟩, transferReport) ∧
    CreConsumer.onReport 2 transferWorld.consumer sampleDeployment.consumer
      transferWorld.authorization transferReport.encode = .ok transferRegistry ∧
    ¬ SpendableRequest sampleDeployment transferArgs transferReport.authorizationId
      (transferRegistry.getAuthorization transferReport.authorizationId) 0 1000 1300 := by
  rw [transferRegistry_get]
  exact ⟨transfer_requested, transfer_evaluated, transfer_delivered, transfer_not_spendable⟩

/-- The equivalence at the sample request. -/
theorem cre_path_sample :
    SpendableRequest sampleDeployment transferArgs transferReport.authorizationId
      (transferRegistry.getAuthorization transferReport.authorizationId) 0 1000 1300 ↔
        transferArgs.policyId = policyCommitment transferPolicy := by
  obtain ⟨gw', hgw⟩ := transfer_requested
  exact cre_path_iff rfl hgw transfer_evaluated rfl transfer_delivered 0 1000 1300

end ContextLock
