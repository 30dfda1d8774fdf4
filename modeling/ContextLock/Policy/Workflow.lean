/-
  Subject:   The confidential workflow: from the gateway's event to the report it delivers.

  The handler decodes the action from the calldata, evaluates the private policy and encodes
  a report: the request's hash, the commitments to policy and context, the verdict and its
  window. How the client library spells an address (its checksum capitals) is a parameter.
-/
import ContextLock.Policy.Evaluate
import ContextLock.Contracts.Gateway
import ContextLock.Contracts.CreConsumer

namespace ContextLock.Policy

open Evm Js
open Gateway (CapabilityRequested)
open CreConsumer (Report)

/-! ## 1. Commitments -/

/-- The parts of a policy that are committed to, as the source joins them. -/
def commitmentParts (p : PrivatePolicy) : List String :=
  [p.policyId, p.policyVersion.text, boolText p.enabled, toString p.autoLimit,
   toString p.escalationLimit, p.maxSlippageBps.text, p.maxVolatilityBps.text,
   toString p.minLiquidity, p.targetEthAllocationBps.text, p.rebalanceDriftBps.text,
   p.minHealthFactorBps.text, p.targetHealthFactorBps.text, p.proprietaryRiskThreshold.text]

def policyCommitment (p : PrivatePolicy) : Bytes32 :=
  keccakText ("|".intercalate (commitmentParts p))

def commitContext (ctx : MarketContext) : Bytes32 :=
  keccakText (":".intercalate ["ctx", ctx.observedAtUnix.text, ctx.slippageBps.text,
    ctx.volatilityBps.text, toString ctx.liquidity, ctx.healthFactorBps.text])

/-! ## 2. The action -/

structure DecodedAction where
  selector : Bytes
  recipient : Address
  amount : Uint256

/-- `decodeAction`: the arguments of `transferTo(address,uint256)`; any other selector, and
    calldata without the two words, throws. -/
def decodeAction (callData : Bytes) : Option DecodedAction :=
  if callData.take 4 = selector "transferTo(address,uint256)" ∧ 68 ≤ callData.length then
    some { selector := callData.take 4, recipient := (wordAt callData 4).setWidth 160
           amount := wordAt callData 36 }
  else none

/-- The calldata of `transferTo(recipient, amount)`. -/
def transferToCalldata (recipient : Address) (amount : Uint256) : Bytes :=
  selector "transferTo(address,uint256)" ++ abiEncode [toWord recipient, amount]

theorem selector_length (signature : String) : (selector signature).length = 4 := by
  simp [selector]

/-- **The decoded amount and recipient are those of the calldata.** -/
theorem decodeAction_transferTo (recipient : Address) (amount : Uint256) :
    decodeAction (transferToCalldata recipient amount)
      = some ⟨selector "transferTo(address,uint256)", recipient, amount⟩ := by
  have hs := selector_length "transferTo(address,uint256)"
  have htake : (transferToCalldata recipient amount).take 4
      = selector "transferTo(address,uint256)" := List.take_left' hs
  have hlen : 68 ≤ (transferToCalldata recipient amount).length := by
    simp [transferToCalldata, hs]
  have h4 := wordAt_wordBytes (selector "transferTo(address,uint256)") (toWord recipient)
    (wordBytes amount)
  have h36 := wordAt_wordBytes (selector "transferTo(address,uint256)" ++ wordBytes (toWord recipient))
    amount []
  rw [hs] at h4
  rw [List.length_append, hs, wordBytes_length, List.append_nil] at h36
  have he : transferToCalldata recipient amount = selector "transferTo(address,uint256)"
      ++ wordBytes (toWord recipient) ++ wordBytes amount := by
    simp [transferToCalldata, abiEncode]
  have hn : (toWord recipient).setWidth 160 = recipient := by
    apply BitVec.eq_of_toNat_eq
    have hr := recipient.isLt
    simp only [toWord, BitVec.toNat_setWidth]
    omega
  unfold decodeAction
  rw [if_pos ⟨htake, hlen⟩, htake, he, h4, h36, hn]

/-! ## 3. The handler -/

/-- `0x…` of a byte string. -/
def hexBytes (b : Bytes) : String := hexText b.length (beNat b)

/-- The request the policy rules on; `addressText` is how the library spells an address. -/
def evaluationRequest (addressText : Address → String) (ev : CapabilityRequested)
    (decoded : DecodedAction) : EvaluationRequest where
  requestHash := hex32 ev.requestHash
  agentIdentityHash := hex32 ev.agentIdentityHash
  ensNode := hex32 ev.ensNode
  agent := addressText ev.agent
  chainId := .int 11155111
  target := addressText ev.target
  value := ev.value.toNat
  calldataHash := hex32 (keccak256 ev.callData)
  selector := hexBytes decoded.selector
  decodedRecipient := addressText decoded.recipient
  decodedAmount := decoded.amount.toNat
  intentHash := hex32 ev.intentHash
  policyId := hex32 ev.policyId
  policyVersion := .int ev.policyVersion.toNat
  actionKind := hex32 ev.actionKind

/-- A number encoded as `uint64`; out of range throws. -/
def encodeUint64 (n : Int) : Option Uint64 :=
  if 0 ≤ n ∧ n < 2 ^ 64 then some (BitVec.ofNat 64 n.toNat) else none

/-- `onCapabilityRequested`, for the policy and the context the enclave has fetched: the
    decision and the report delivered; `none` where the handler throws. -/
def onCapabilityRequested (addressText : Address → String) (policy : PrivatePolicy)
    (ctx : MarketContext) (nowUnix : Int) (ev : CapabilityRequested) :
    Option (PolicyDecision × Report) := do
  let decoded ← decodeAction ev.callData
  let decision := evaluatePolicy (evaluationRequest addressText ev decoded) policy ctx nowUnix
  let ttl := if decision.ttlSeconds = 0 then DEFAULT_TTL_SECONDS else decision.ttlSeconds
  let evaluatedAt ← encodeUint64 nowUnix
  let validUntil ← encodeUint64 (nowUnix + ttl)
  return (decision,
    { requestHash := ev.requestHash, policyCommitment := policyCommitment policy
      contextCommitment := commitContext ctx
      verdict := BitVec.ofNat 8 (verdictToUint decision.verdict)
      reasonCode := keccakText decision.reasonCode.text
      evaluatedAt := evaluatedAt, validUntil := validUntil })

/-- **What a report says**: the event's own request hash, the policy's commitment and the
    verdict; and an ALLOW is for the policy the event names. -/
theorem onCapabilityRequested_ok {addressText : Address → String} {policy : PrivatePolicy}
    {ctx : MarketContext} {nowUnix : Int} {ev : CapabilityRequested} {decision : PolicyDecision}
    {report : Report}
    (h : onCapabilityRequested addressText policy ctx nowUnix ev = some (decision, report)) :
    report.requestHash = ev.requestHash ∧ report.policyCommitment = policyCommitment policy ∧
      report.contextCommitment = commitContext ctx ∧
      report.verdict = BitVec.ofNat 8 (verdictToUint decision.verdict) ∧
      (decision.verdict = .allow → hex32 ev.policyId = policy.policyId) := by
  simp only [onCapabilityRequested, Option.bind_eq_bind, Option.bind_eq_some_iff,
    Option.pure_def, Option.some.injEq, Prod.mk.injEq] at h
  obtain ⟨decoded, _, evaluatedAt, _, validUntil, _, rfl, rfl⟩ := h
  exact ⟨rfl, rfl, rfl, rfl, fun ha => (evaluatePolicy_allow ha).2.1⟩

end ContextLock.Policy
