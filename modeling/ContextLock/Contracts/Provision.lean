/-
  Subject:   The monitor refuses no well-formed capability for good.

  For every well-formed capability there is a chain state in which it executes:
  `provisioned` sets the registries up for it (policy, identity, authorization, approval and an
  ERC-1271 issuer that signs its digest), with any predicate of allowed action kinds.
-/
import ContextLock.Contracts.System

namespace ContextLock

open Evm
open AuthorizationRegistry (Verdict)
open Executor (Submission)

/-! ## 1. An issuer contract -/

/-- The left-aligned word of a `bytes4`. -/
def bytes4Word (m : Bytes4) : Bytes32 := BitVec.ofNat 256 (m.toNat * 2 ^ 224)

theorem decodeBytes4_encode (m : Bytes4) :
    Executor.decodeBytes4 (abiEncode [bytes4Word m]) = some m := by
  have hw : wordAt (abiEncode [bytes4Word m]) (32 * 0) = bytes4Word m := wordAt_abiEncode (by simp)
  rw [Nat.mul_zero] at hw
  have hm := m.isLt
  have hn : (bytes4Word m).toNat = m.toNat * 2 ^ 224 := by
    unfold bytes4Word
    rw [BitVec.toNat_ofNat]
    exact Nat.mod_eq_of_lt (by omega)
  simp only [Executor.decodeBytes4, hw, hn]
  simp

/-- An issuer contract that has signed exactly the digest `h`. -/
def signedOnly (h hash : Bytes32) (_signature : Bytes) : Option Bytes :=
  if hash = h then some (abiEncode [bytes4Word Executor.magicValue])
  else some (abiEncode [bytes4Word 0xffffffff])

/-! ## 2. The state -/

def noApprovals : Bytes32 → ApprovalRegistry.Approval := fun _ => .zero

/-- What a capability must be by itself for `execute` ever to take it, at time `now`. -/
structure WellFormed (d : Deployment) (x : Submission) (now : Uint256) : Prop where
  version : x.cap.version = ContextLockTypes.VERSION
  chainId : x.cap.chainId = d.host.chainid
  executor : x.cap.executor = d.executor
  target : x.cap.target ≠ 0
  agent : x.cap.agent ≠ 0
  window : x.cap.issuedAt < x.cap.expiresAt
  lifetime : x.cap.expiresAt - x.cap.issuedAt ≤ Executor.MAX_CAPABILITY_LIFETIME
  notExpired : now ≤ toWord x.cap.expiresAt
  noOverflow : now ≤ now + Executor.MAX_CLOCK_SKEW
  issued : toWord x.cap.issuedAt ≤ now + Executor.MAX_CLOCK_SKEW
  callData : keccak256 x.callData = x.cap.calldataHash
  value : x.msgValue = x.cap.value

/-- **The registries set up for a capability**: the policy allows its target and the action
    kinds `kinds`, its authorization has verdict `v` and covers it, its identity is bound and
    the issuer has signed it; `approvals` are recorded, by the approver `1`. -/
def provisioned (d : Deployment) (x : Submission) (v : Verdict) (kinds : Bytes32 → Bool)
    (now : Uint256) (approvals : Bytes32 → ApprovalRegistry.Approval) :
    World where
  now := now
  policy :=
    { policyAdmin := fun _ => 1
      policies := fun _ _ => ⟨true, x.cap.value⟩
      allowedTarget := fun _ _ t => t = x.cap.target
      allowedAction := fun _ _ k => kinds k
      bindingVersion := fun _ => 1 }
  authorization :=
    { owner := 1
      authorizer := 1
      authorizations := fun i =>
        if i = x.cap.authorizationId then
          { requestHash := ContextLockTypes.requestHash x.cap, policyHash := x.cap.policyHash
            contextCommitment := x.cap.contextCommitment, evaluatedAt := x.cap.issuedAt
            approvedUntil := x.cap.expiresAt, verdict := v }
        else .zero }
  approval :=
    { owner := 1, approver := 1, executor := d.executor, approvals := approvals }
  consumer := ⟨1, 0, 0⟩
  gateway := ⟨fun _ => .zero⟩
  identity := .local_ ⟨1, fun _ => x.cap.agent, false⟩
  ens := fun _ => ⟨fun _ => none, fun _ => none, fun _ => none⟩
  issuerCode := some (signedOnly (Executor.digest d x.cap))
  nonceUsed := fun _ _ => false
  entered := false
  events := []
  targetCalls := []

section Facts

variable {d : Deployment} {x : Submission} {v : Verdict} {kinds : Bytes32 → Bool} {now : Uint256}
  {approvals : Bytes32 → ApprovalRegistry.Approval}

/-- The verdicts an execution can rest on: an ALLOW, or an ESCALATE with a usable approval. -/
def Spendable (d : Deployment) (x : Submission) (now : Uint256)
    (approvals : Bytes32 → ApprovalRegistry.Approval) (v : Verdict) : Prop :=
  v = .allow ∨ v = .escalate ∧ d.approvalRegistry ≠ 0 ∧
    ApprovalRegistry.Usable now ⟨1, 1, d.executor, approvals⟩ (Executor.digest d x.cap)

/-- **In its provisioned state a well-formed capability validates.** -/
theorem provisioned_validated (hx : WellFormed d x now) (hv : Spendable d x now approvals v)
    (hk : kinds x.actionKind = true) :
    Executor.Validated d (Executor.lock (provisioned d x v kinds now approvals)) x where
  call := ⟨hx.version, hx.chainId, hx.executor, hx.target, hx.window, hx.lifetime, hx.notExpired,
    hx.noOverflow, hx.issued, rfl, hx.callData, hx.value⟩
  signature := by
    simp [Executor.isValidIssuerSignature, Executor.lock, provisioned, signedOnly,
      decodeBytes4_encode]
  identity := by
    have hcur := (LocalAgentIdentityVerifier.local_current_iff (s := ⟨1, fun _ => x.cap.agent, false⟩)
      (a := x.cap.agentIdentityHash)).mpr ⟨rfl, hx.agent, rfl⟩
    exact congrArg some hcur
  policy := ⟨rfl, by simp [PolicyRegistry.Storage.isTargetAllowed, Executor.lock, provisioned], hk,
    BitVec.le_refl _⟩
  authorization := by
    refine ⟨?_, ?_, ?_, ?_, ?_⟩ <;>
      simp only [AuthorizationRegistry.Storage.getAuthorization, Executor.lock, provisioned, if_true]
    · exact hv
    · exact hx.notExpired

variable {target : World → Except Bytes (World × Bytes)} {w₂ : World} {ret : Bytes}

def allowCalling (d : Deployment) (x : Submission) (w : World) : World :=
  Executor.calling d x (Executor.useNonce x.cap (Executor.lock w))

/-- Where a capability with an ALLOW validates it executes, with every target that returns. -/
theorem execute_of_allow {w : World} (hidle : w.entered = false)
    (hv : Executor.Validated d (Executor.lock w) x)
    (hallow : (w.authorization.getAuthorization x.cap.authorizationId).verdict = .allow)
    (ht : target (allowCalling d x w) = .ok (w₂, ret)) :
    Executor.execute d x target w = .ok (Executor.finish x.cap (Executor.digest d x.cap) w₂, ret) := by
  have hc : Executor.consumeIfEscalated d x.cap (Executor.digest d x.cap)
      (Executor.useNonce x.cap (Executor.lock w)) = .ok (Executor.useNonce x.cap (Executor.lock w)) := by
    refine if_neg fun h => ?_
    have hesc : (w.authorization.getAuthorization x.cap.authorizationId).verdict = .escalate := h.2
    rw [hallow] at hesc
    cases hesc
  exact Executor.execute_iff.mpr ⟨hidle, hv, _, w₂, hc, ht, rfl⟩

theorem provisioned_verdict : ((provisioned d x v kinds now approvals).authorization.getAuthorization
    x.cap.authorizationId).verdict = v := by
  simp [provisioned, AuthorizationRegistry.Storage.getAuthorization]

/-- **A well-formed capability with an ALLOW executes**, with every target that returns. -/
theorem provisioned_executes (hx : WellFormed d x now) (hk : kinds x.actionKind = true)
    (ht : target (allowCalling d x (provisioned d x .allow kinds now approvals)) = .ok (w₂, ret)) :
    Executor.execute d x target (provisioned d x .allow kinds now approvals)
      = .ok (Executor.finish x.cap (Executor.digest d x.cap) w₂, ret) :=
  execute_of_allow rfl (provisioned_validated hx (.inl rfl) hk) provisioned_verdict ht

/-- The world after a capability with an ALLOW is submitted, its target returning at once. -/
def provisionedExecuted (d : Deployment) (x : Submission) (kinds : Bytes32 → Bool)
    (now : Uint256) (approvals : Bytes32 → ApprovalRegistry.Approval) : World :=
  Executor.finish x.cap (Executor.digest d x.cap)
    (allowCalling d x (provisioned d x .allow kinds now approvals))

theorem transact_provisioned (hx : WellFormed d x now) (hk : kinds x.actionKind = true)
    (ret : Bytes) : (system d).transact (submit x (.halt true ret)) (provisioned d x .allow kinds now approvals)
      = provisionedExecuted d x kinds now approvals := by
  have ht : Code.run d (.halt true ret) (allowCalling d x (provisioned d x .allow kinds now approvals))
      = .ok (allowCalling d x (provisioned d x .allow kinds now approvals), ret) := rfl
  exact transact_submit_ok (provisioned_executes hx hk ht)

end Facts

/-! ## 3. A sample -/

/-- A deployment on chain 1 with an approval registry. -/
def sampleDeployment : Deployment where
  host := { chainid := 1, ecrecover := fun _ _ _ _ => 0 }
  executor := 0xE0
  DOMAIN_SEPARATOR := domainSeparator "ContextLock" 1 0xE0
  capabilityIssuer := 0xE1
  approvalRegistry := 0xE2
  policyRegistry := 0xE3
  authorizationRegistry := 0xE4
  identityVerifier := 0xE5
  approvalDomain := domainSeparator "ContextLockApproval" 1 0xE2
  consumer := 0xE6
  gateway := 0xE7
  executorBinding := 0xE0

/-- A submission without calldata or value, to the account `0xA1`. -/
def sampleSubmission : Submission where
  msgValue := 0
  cap :=
    { version := 1, agentIdentityHash := 0x11, agent := 0xA0, chainId := 1, executor := 0xE0
      target := 0xA1, value := 0, calldataHash := keccak256 [], intentHash := 0x12
      policyHash := 0x13, authorizationId := 0x14, contextCommitment := 0x15
      issuedAt := 1000, expiresAt := 1300, nonce := 0 }
  signature := []
  callData := []
  actionKind := 0x16

theorem sample_wellFormed : WellFormed sampleDeployment sampleSubmission 1100 := by
  refine ⟨rfl, rfl, rfl, ?_, ?_, ?_, ?_, ?_, ?_, ?_, rfl, rfl⟩ <;> decide

end ContextLock
