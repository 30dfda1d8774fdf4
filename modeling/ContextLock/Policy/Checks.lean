/-
  Subject:   The checks of `evaluatePolicy` before the market's.

  They are about the switch, the shape and age of the context, who asks for what and where, and
  under which policy. What one of them refuses is denied; the rest is left to the market's rules.
-/
import ContextLock.Policy.Evaluate

namespace ContextLock.Policy

open Js

/-! ## 1. What they ask for -/

/-- A field of the context that is not finite, or is negative. -/
def Malformed (ctx : MarketContext) : Prop :=
  ctx.slippageBps.isFinite = false ∨ ctx.volatilityBps.isFinite = false ∨
    ctx.healthFactorBps.isFinite = false ∨ ctx.observedAtUnix.isFinite = false ∨
    ctx.slippageBps.lt (.int 0) = true ∨ ctx.volatilityBps.lt (.int 0) = true ∨
    ctx.liquidity < 0 ∨ ctx.healthFactorBps.lt (.int 0) = true

instance (ctx : MarketContext) : Decidable (Malformed ctx) :=
  inferInstanceAs (Decidable (_ ∨ _))

def integer : Js.Num → Int
  | .int n => n
  | _ => 0

/-- A context that is too old, or from the future. -/
def Stale (ctx : MarketContext) (nowUnix : Int) : Prop :=
  nowUnix - integer ctx.observedAtUnix > MAX_CONTEXT_AGE_SECONDS ∨
    integer ctx.observedAtUnix > nowUnix + 30

instance (ctx : MarketContext) (nowUnix : Int) : Decidable (Stale ctx nowUnix) :=
  inferInstanceAs (Decidable (_ ∨ _))

/-- The first of the checks before the market that refuses. -/
def refusal (req : EvaluationRequest) (policy : PrivatePolicy) (ctx : MarketContext)
    (nowUnix : Int) : Option ReasonCode :=
  if ¬ policy.enabled then some .DENY_POLICY_DISABLED
  else if Malformed ctx then some .DENY_MALFORMED_CONTEXT
  else if Stale ctx nowUnix then some .DENY_CONTEXT_STALE
  else if ¬ (policy.authorizedAgentIdentityHashes.map toLowerCase).contains
      (toLowerCase req.agentIdentityHash) then some .DENY_AGENT_NOT_AUTHORIZED
  else if ¬ policy.allowedActionKinds.contains req.actionKind then some .DENY_ACTION_NOT_ALLOWED
  else if ¬ (policy.allowedTargets.map toLowerCase).contains (toLowerCase req.target) then
    some .DENY_TARGET_NOT_ALLOWED
  else if req.policyId ≠ policy.policyId ∨ ¬ req.policyVersion.strictEq policy.policyVersion then
    some .DENY_POLICY_DISABLED
  else none

/-- **A request that the checks before the market admit.** -/
structure Admissible (req : EvaluationRequest) (policy : PrivatePolicy) (ctx : MarketContext)
    (nowUnix : Int) : Prop where
  enabled : policy.enabled = true
  formed : ¬ Malformed ctx
  fresh : ¬ Stale ctx nowUnix
  agent : toLowerCase req.agentIdentityHash ∈ policy.authorizedAgentIdentityHashes.map toLowerCase
  action : req.actionKind ∈ policy.allowedActionKinds
  target : toLowerCase req.target ∈ policy.allowedTargets.map toLowerCase
  policyId : req.policyId = policy.policyId
  policyVersion : req.policyVersion.strictEq policy.policyVersion = true

section Checks

variable {req : EvaluationRequest} {policy : PrivatePolicy} {ctx : MarketContext} {nowUnix : Int}

theorem ite_some_eq_none {c : Prop} [Decidable c] {reason : ReasonCode} {x : Option ReasonCode} :
    (if c then some reason else x) = none ↔ ¬ c ∧ x = none := by
  by_cases h : c <;> simp [h]

theorem refusal_eq_none : refusal req policy ctx nowUnix = none ↔
    Admissible req policy ctx nowUnix := by
  constructor
  · intro h
    simp only [refusal, ite_some_eq_none, not_not, not_or, List.contains_iff_mem] at h
    obtain ⟨henabled, hformed, hfresh, hagent, haction, htarget, ⟨hid, hversion⟩, -⟩ := h
    exact ⟨henabled, hformed, hfresh, hagent, haction, htarget, hid, hversion⟩
  · intro h
    simp [refusal, h.enabled, h.formed, h.fresh, h.agent, h.action, h.target, h.policyId,
      h.policyVersion]

/-- **The checks before the market come first.** -/
theorem evaluatePolicy_eq : evaluatePolicy req policy ctx nowUnix =
    (refusal req policy ctx nowUnix).elim
      (evaluateMarket req policy ctx (integer ctx.slippageBps) (integer ctx.volatilityBps))
      denied := by
  obtain ⟨observedAt, slippage, volatility, liquidity, health⟩ := ctx
  unfold evaluatePolicy refusal
  by_cases henabled : policy.enabled = true
  swap
  · rw [if_pos henabled, if_pos henabled]
    rfl
  simp only [henabled, not_true_eq_false, if_false]
  -- a field that is not finite is refused on both sides
  rcases slippage with slippage | _ | _
  rotate_left
  · rw [if_pos (.inl rfl)]
    rfl
  · rw [if_pos (.inl rfl)]
    rfl
  rcases volatility with volatility | _ | _
  rotate_left
  · rw [if_pos (.inr (.inl rfl))]
    rfl
  · rw [if_pos (.inr (.inl rfl))]
    rfl
  rcases health with health | _ | _
  rotate_left
  · rw [if_pos (.inr (.inr (.inl rfl)))]
    rfl
  · rw [if_pos (.inr (.inr (.inl rfl)))]
    rfl
  rcases observedAt with observedAt | _ | _
  rotate_left
  · rw [if_pos (.inr (.inr (.inr (.inl rfl))))]
    rfl
  · rw [if_pos (.inr (.inr (.inr (.inl rfl))))]
    rfl
  have hmalformed : Malformed ⟨.int observedAt, .int slippage, .int volatility, liquidity,
      .int health⟩ ↔ slippage < 0 ∨ volatility < 0 ∨ liquidity < 0 ∨ health < 0 := by
    simp [Malformed, Num.isFinite]
  have hstale : Stale ⟨.int observedAt, .int slippage, .int volatility, liquidity, .int health⟩
      nowUnix ↔
        nowUnix - observedAt > MAX_CONTEXT_AGE_SECONDS ∨ observedAt > nowUnix + 30 := Iff.rfl
  simp only [hmalformed, hstale]
  repeat' split
  all_goals rfl

end Checks

end ContextLock.Policy
