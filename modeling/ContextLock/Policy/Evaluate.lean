/-
  Subject:   `evaluatePolicy`: the private policy's decision over a decoded request.

  The rules in the source's order: the policy's switch, the context's shape and age, who asks
  for what and where, under which policy, then the amount, the market and the composite risk.
-/
import ContextLock.Js.Value

namespace ContextLock.Policy

open Js

inductive Verdict where
  | allow
  | escalate
  | deny
  deriving DecidableEq

inductive ReasonCode where
  | ALLOW_POLICY_MATCH
  | DENY_AGENT_NOT_AUTHORIZED
  | DENY_TARGET_NOT_ALLOWED
  | DENY_ACTION_NOT_ALLOWED
  | DENY_AMOUNT_TOO_HIGH
  | DENY_CONTEXT_STALE
  | DENY_SLIPPAGE
  | DENY_VOLATILITY
  | DENY_LIQUIDITY
  | DENY_POLICY_DISABLED
  | DENY_MALFORMED_CONTEXT
  | ESCALATE_AMOUNT
  | ESCALATE_RISK
  | ESCALATE_POLICY_RULE
  deriving DecidableEq

def ReasonCode.text : ReasonCode → String
  | ALLOW_POLICY_MATCH => "ALLOW_POLICY_MATCH"
  | DENY_AGENT_NOT_AUTHORIZED => "DENY_AGENT_NOT_AUTHORIZED"
  | DENY_TARGET_NOT_ALLOWED => "DENY_TARGET_NOT_ALLOWED"
  | DENY_ACTION_NOT_ALLOWED => "DENY_ACTION_NOT_ALLOWED"
  | DENY_AMOUNT_TOO_HIGH => "DENY_AMOUNT_TOO_HIGH"
  | DENY_CONTEXT_STALE => "DENY_CONTEXT_STALE"
  | DENY_SLIPPAGE => "DENY_SLIPPAGE"
  | DENY_VOLATILITY => "DENY_VOLATILITY"
  | DENY_LIQUIDITY => "DENY_LIQUIDITY"
  | DENY_POLICY_DISABLED => "DENY_POLICY_DISABLED"
  | DENY_MALFORMED_CONTEXT => "DENY_MALFORMED_CONTEXT"
  | ESCALATE_AMOUNT => "ESCALATE_AMOUNT"
  | ESCALATE_RISK => "ESCALATE_RISK"
  | ESCALATE_POLICY_RULE => "ESCALATE_POLICY_RULE"

inductive RiskBand where
  | low
  | medium
  | high
  deriving DecidableEq

structure PrivatePolicy where
  policyId : String
  policyVersion : Js.Num
  enabled : Bool
  autoLimit : Int
  escalationLimit : Int
  maxSlippageBps : Js.Num
  maxVolatilityBps : Js.Num
  minLiquidity : Int
  targetEthAllocationBps : Js.Num
  rebalanceDriftBps : Js.Num
  minHealthFactorBps : Js.Num
  targetHealthFactorBps : Js.Num
  proprietaryRiskThreshold : Js.Num
  canary : String
  allowedActionKinds : List String
  allowedTargets : List String
  authorizedAgentIdentityHashes : List String

structure EvaluationRequest where
  requestHash : String
  agentIdentityHash : String
  ensNode : String
  agent : String
  chainId : Js.Num
  target : String
  value : Int
  calldataHash : String
  selector : String
  decodedRecipient : String
  decodedAmount : Int
  intentHash : String
  policyId : String
  policyVersion : Js.Num
  actionKind : String

structure MarketContext where
  observedAtUnix : Js.Num
  slippageBps : Js.Num
  volatilityBps : Js.Num
  liquidity : Int
  healthFactorBps : Js.Num

structure PolicyDecision where
  verdict : Verdict
  reasonCode : ReasonCode
  riskBand : RiskBand
  ttlSeconds : Int
  deriving DecidableEq

def MAX_CONTEXT_AGE_SECONDS : Int := 120
def DEFAULT_TTL_SECONDS : Int := 60

/-- A refusal. -/
def denied (reasonCode : ReasonCode) : PolicyDecision := ⟨.deny, reasonCode, .high, 0⟩

/-- A hand-over to a human. -/
def escalated (reasonCode : ReasonCode) (riskBand : RiskBand) : PolicyDecision :=
  ⟨.escalate, reasonCode, riskBand, DEFAULT_TTL_SECONDS⟩

/-- The composite score of finite slippage and volatility: the source's `Math.floor` of a
    quarter and an integer. -/
def riskScore (policy : PrivatePolicy) (slippage volatility amount : Int) : Int :=
  (slippage * 3 + volatility).fdiv 4 +
    (amount.tdiv (if policy.autoLimit > 0 then policy.autoLimit else 1)) * 10

/-- The market rules and the amounts, for a context whose fields are finite. -/
def evaluateMarket (req : EvaluationRequest) (policy : PrivatePolicy) (ctx : MarketContext)
    (slippage volatility : Int) : PolicyDecision :=
  let amount := req.decodedAmount
  if amount > policy.escalationLimit then denied .DENY_AMOUNT_TOO_HIGH
  else if ctx.liquidity < policy.minLiquidity then denied .DENY_LIQUIDITY
  else if policy.maxSlippageBps.lt ctx.slippageBps then denied .DENY_SLIPPAGE
  else if policy.maxVolatilityBps.lt ctx.volatilityBps then escalated .ESCALATE_RISK .high
  else if (Js.Num.int 0).lt ctx.healthFactorBps
      && ctx.healthFactorBps.lt policy.minHealthFactorBps then
    escalated .ESCALATE_RISK .high
  else if amount > policy.autoLimit then escalated .ESCALATE_AMOUNT .medium
  else if policy.proprietaryRiskThreshold.lt (.int (riskScore policy slippage volatility amount)) then
    escalated .ESCALATE_POLICY_RULE .medium
  else ⟨.allow, .ALLOW_POLICY_MATCH, .low, DEFAULT_TTL_SECONDS⟩

def evaluatePolicy (req : EvaluationRequest) (policy : PrivatePolicy) (ctx : MarketContext)
    (nowUnix : Int) : PolicyDecision :=
  if ¬ policy.enabled then denied .DENY_POLICY_DISABLED
  else match ctx.slippageBps, ctx.volatilityBps, ctx.healthFactorBps, ctx.observedAtUnix with
    | .int slippage, .int volatility, .int health, .int observedAt =>
      if slippage < 0 ∨ volatility < 0 ∨ ctx.liquidity < 0 ∨ health < 0 then
        denied .DENY_MALFORMED_CONTEXT
      else if nowUnix - observedAt > MAX_CONTEXT_AGE_SECONDS ∨ observedAt > nowUnix + 30 then
        denied .DENY_CONTEXT_STALE
      else if ¬ (policy.authorizedAgentIdentityHashes.map toLowerCase).contains
          (toLowerCase req.agentIdentityHash) then
        denied .DENY_AGENT_NOT_AUTHORIZED
      else if ¬ policy.allowedActionKinds.contains req.actionKind then
        denied .DENY_ACTION_NOT_ALLOWED
      else if ¬ (policy.allowedTargets.map toLowerCase).contains (toLowerCase req.target) then
        denied .DENY_TARGET_NOT_ALLOWED
      else if req.policyId ≠ policy.policyId ∨
          ¬ req.policyVersion.strictEq policy.policyVersion then
        denied .DENY_POLICY_DISABLED
      else evaluateMarket req policy ctx slippage volatility
    -- a field that is not finite
    | _, _, _, _ => denied .DENY_MALFORMED_CONTEXT

def verdictToUint : Verdict → Nat
  | .allow => 1
  | .escalate => 2
  | .deny => 3

/-- **An ALLOW is for the policy's own id and version.** -/
theorem evaluatePolicy_allow {req : EvaluationRequest} {policy : PrivatePolicy}
    {ctx : MarketContext} {nowUnix : Int}
    (h : (evaluatePolicy req policy ctx nowUnix).verdict = .allow) :
    policy.enabled = true ∧ req.policyId = policy.policyId ∧
      req.policyVersion = policy.policyVersion := by
  have hne : ∀ r, (denied r).verdict ≠ .allow := fun _ e => by cases e
  unfold evaluatePolicy at h
  split at h
  · exact absurd h (hne _)
  · rename_i hen
    split at h
    · split at h
      · exact absurd h (hne _)
      · split at h
        · exact absurd h (hne _)
        · split at h
          · exact absurd h (hne _)
          · split at h
            · exact absurd h (hne _)
            · split at h
              · exact absurd h (hne _)
              · split at h
                · exact absurd h (hne _)
                · rename_i hid
                  obtain ⟨hp, hv⟩ := not_or.mp hid
                  exact ⟨not_not.mp hen, not_not.mp hp, (Js.Num.strictEq_iff.mp (not_not.mp hv)).1⟩
    · exact absurd h (hne _)

end ContextLock.Policy
