/-
  Subject:   More risk and the verdict of `evaluatePolicy`.

  The checks before the market are about the request and the age of the context; what they refuse is
  denied, whatever the market says. The market's rules all refuse more where there is more risk, if
  a health factor of zero is read as they read it: as none at all.
-/
import ContextLock.Policy.Limits

namespace ContextLock.Policy

open Js

/-! ## 1. More risk -/

/-- A context whose fields are integers that are not negative. -/
structure Market where
  observedAtUnix : Nat
  slippageBps : Nat
  volatilityBps : Nat
  liquidity : Nat
  healthFactorBps : Nat

def Market.context (m : Market) : MarketContext :=
  ⟨.int m.observedAtUnix, .int m.slippageBps, .int m.volatilityBps, m.liquidity,
    .int m.healthFactorBps⟩

def NoHealthier (health' health : Nat) : Prop := health = 0 ∨ (0 < health' ∧ health' ≤ health)

/-- The second amount and market are at least as risky as the first, observed at the same time. -/
structure Riskier (amount amount' : Int) (m m' : Market) : Prop where
  observedAtUnix : m'.observedAtUnix = m.observedAtUnix
  amount : amount ≤ amount'
  slippage : m.slippageBps ≤ m'.slippageBps
  volatility : m.volatilityBps ≤ m'.volatilityBps
  liquidity : m'.liquidity ≤ m.liquidity
  health : NoHealthier m'.healthFactorBps m.healthFactorBps

def EvaluationRequest.withAmount (req : EvaluationRequest) (amount : Int) : EvaluationRequest :=
  { req with decodedAmount := amount }

/-- ALLOW, ESCALATE, DENY: how restrictive a verdict is. -/
def Verdict.severity : Verdict → Nat
  | .allow => 0
  | .escalate => 1
  | .deny => 2

theorem severity_le_iff {v v' : Verdict} : v.severity ≤ v'.severity ↔
    (v' = .allow → v = .allow) ∧ (v' ≠ .deny → v ≠ .deny) := by
  cases v <;> cases v' <;> decide

section Risk

variable {req : EvaluationRequest} {policy : PrivatePolicy} {nowUnix : Int} {amount amount' : Int}
  {m m' : Market}

end Risk

/-! ## 2. A lending policy -/

/-- A policy that allows repayments of up to 1000 USD. -/
def lendingPolicy : PrivatePolicy where
  policyId := "pol_1"
  policyVersion := .int 1
  enabled := true
  autoLimit := 1000
  escalationLimit := 5000
  maxSlippageBps := .int 100
  maxVolatilityBps := .int 500
  minLiquidity := 0
  targetEthAllocationBps := .int 5000
  rebalanceDriftBps := .int 500
  minHealthFactorBps := .int 11000
  targetHealthFactorBps := .int 15000
  proprietaryRiskThreshold := .int 50
  canary := ""
  allowedActionKinds := ["REPAY_DEBT"]
  allowedTargets := ["0xpool"]
  authorizedAgentIdentityHashes := ["0xagent"]

def repayRequest : EvaluationRequest where
  requestHash := "0xrequest"
  agentIdentityHash := "0xagent"
  ensNode := "0xnode"
  agent := "0xuser"
  chainId := .int 1
  target := "0xpool"
  value := 0
  calldataHash := "0xhash"
  selector := "0x12345678"
  decodedRecipient := "0xuser"
  decodedAmount := 100
  intentHash := "0xintent"
  policyId := "pol_1"
  policyVersion := .int 1
  actionKind := "REPAY_DEBT"

end ContextLock.Policy
