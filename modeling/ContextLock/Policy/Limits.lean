/-
  Subject:   What the two limits of a private policy do in `evaluatePolicy`.

  All checks but those of the market are about the request, the context and the rest of the
  policy, so a policy that differs in its limits alone passes or refuses the same requests there.
-/
import ContextLock.Policy.Checks

namespace ContextLock.Policy

open Js

def PrivatePolicy.withLimits (policy : PrivatePolicy) (auto escalation : Int) : PrivatePolicy :=
  { policy with autoLimit := auto, escalationLimit := escalation }

theorem withLimits_self (policy : PrivatePolicy) :
    policy.withLimits policy.autoLimit policy.escalationLimit = policy := rfl

variable {req : EvaluationRequest} {policy : PrivatePolicy} {ctx : MarketContext} {nowUnix : Int}

/-- **The checks before the market do not read the limits**: either they refuse under all limits,
    or the market decides under all. -/
theorem evaluatePolicy_cases (req : EvaluationRequest) (policy : PrivatePolicy)
    (ctx : MarketContext) (nowUnix : Int) :
    (∃ reason, ∀ auto escalation,
      evaluatePolicy req (policy.withLimits auto escalation) ctx nowUnix = denied reason) ∨
    ∃ slippage volatility, req.actionKind ∈ policy.allowedActionKinds ∧ ∀ auto escalation,
      evaluatePolicy req (policy.withLimits auto escalation) ctx nowUnix
        = evaluateMarket req (policy.withLimits auto escalation) ctx slippage volatility := by
  have hsame : ∀ auto escalation, refusal req (policy.withLimits auto escalation) ctx nowUnix
      = refusal req policy ctx nowUnix := fun _ _ => rfl
  cases hrefusal : refusal req policy ctx nowUnix with
  | some reason =>
    refine .inl ⟨reason, fun auto escalation => ?_⟩
    rw [evaluatePolicy_eq, hsame, hrefusal]
    rfl
  | none =>
    refine .inr ⟨integer ctx.slippageBps, integer ctx.volatilityBps,
      (refusal_eq_none.mp hrefusal).action, fun auto escalation => ?_⟩
    rw [evaluatePolicy_eq, hsame, hrefusal]
    rfl

theorem verdict_eq_escalate {decision : PolicyDecision} (hdeny : decision.verdict ≠ .deny)
    (hallow : decision.verdict ≠ .allow) : decision.verdict = .escalate := by
  cases hverdict : decision.verdict with
  | allow => exact absurd hverdict hallow
  | escalate => rfl
  | deny => exact absurd hverdict hdeny

theorem evaluateMarket_ne_deny {slippage volatility : Int} :
    (evaluateMarket req policy ctx slippage volatility).verdict ≠ .deny ↔
      req.decodedAmount ≤ policy.escalationLimit ∧ policy.minLiquidity ≤ ctx.liquidity ∧
        policy.maxSlippageBps.lt ctx.slippageBps = false := by
  unfold evaluateMarket
  by_cases hamount : req.decodedAmount > policy.escalationLimit
  · rw [if_pos hamount]
    exact iff_of_false (fun h => h rfl) fun h => by omega
  rw [if_neg hamount]
  by_cases hliquidity : ctx.liquidity < policy.minLiquidity
  · rw [if_pos hliquidity]
    exact iff_of_false (fun h => h rfl) fun h => by omega
  rw [if_neg hliquidity]
  cases hslippage : policy.maxSlippageBps.lt ctx.slippageBps
  · rw [if_neg Bool.false_ne_true]
    refine iff_of_true ?_ ⟨by omega, by omega, rfl⟩
    split
    · exact fun h => by cases h
    · split
      · exact fun h => by cases h
      · split
        · exact fun h => by cases h
        · split <;> exact fun h => by cases h
  · rw [if_pos rfl]
    exact iff_of_false (fun h => h rfl) fun h => by cases h.2.2

/-- What the market allows: what it does not deny and no human has to see. -/
theorem evaluateMarket_allow {slippage volatility : Int} :
    (evaluateMarket req policy ctx slippage volatility).verdict = .allow ↔
      (evaluateMarket req policy ctx slippage volatility).verdict ≠ .deny ∧
        policy.maxVolatilityBps.lt ctx.volatilityBps = false ∧
        ((Js.Num.int 0).lt ctx.healthFactorBps &&
          ctx.healthFactorBps.lt policy.minHealthFactorBps) = false ∧
        req.decodedAmount ≤ policy.autoLimit ∧
        policy.proprietaryRiskThreshold.lt
          (.int (riskScore policy slippage volatility req.decodedAmount)) = false := by
  rw [evaluateMarket_ne_deny]
  unfold evaluateMarket
  by_cases hamount : req.decodedAmount > policy.escalationLimit
  · rw [if_pos hamount]
    exact iff_of_false (fun h => by cases h) fun h => by omega
  rw [if_neg hamount]
  by_cases hliquidity : ctx.liquidity < policy.minLiquidity
  · rw [if_pos hliquidity]
    exact iff_of_false (fun h => by cases h) fun h => by omega
  rw [if_neg hliquidity]
  cases hslippage : policy.maxSlippageBps.lt ctx.slippageBps
  swap
  · rw [if_pos rfl]
    exact iff_of_false (fun h => by cases h) fun h => by cases h.1.2.2
  rw [if_neg Bool.false_ne_true]
  cases hvolatility : policy.maxVolatilityBps.lt ctx.volatilityBps
  swap
  · rw [if_pos rfl]
    exact iff_of_false (fun h => by cases h) fun h => by cases h.2.1
  rw [if_neg Bool.false_ne_true]
  cases hhealth : (Js.Num.int 0).lt ctx.healthFactorBps &&
      ctx.healthFactorBps.lt policy.minHealthFactorBps
  swap
  · rw [if_pos rfl]
    exact iff_of_false (fun h => by cases h) fun h => by cases h.2.2.1
  rw [if_neg Bool.false_ne_true]
  by_cases hauto : req.decodedAmount > policy.autoLimit
  · rw [if_pos hauto]
    exact iff_of_false (fun h => by cases h) fun h => by omega
  rw [if_neg hauto]
  cases hrisk : policy.proprietaryRiskThreshold.lt
      (.int (riskScore policy slippage volatility req.decodedAmount))
  · rw [if_neg Bool.false_ne_true]
    exact iff_of_true rfl ⟨⟨by omega, by omega, rfl⟩, rfl, rfl, by omega, rfl⟩
  · rw [if_pos rfl]
    exact iff_of_false (fun h => by cases h) fun h => by cases h.2.2.2.2

/-- **What is not denied is of an allowed kind and within the escalation limit.** -/
theorem evaluatePolicy_within
    (h : (evaluatePolicy req policy ctx nowUnix).verdict ≠ .deny) :
    req.actionKind ∈ policy.allowedActionKinds ∧ req.decodedAmount ≤ policy.escalationLimit := by
  obtain ⟨reason, hdenied⟩ | ⟨slippage, volatility, hkind, hmarket⟩ :=
    evaluatePolicy_cases req policy ctx nowUnix
  · rw [← withLimits_self policy, hdenied] at h
    exact absurd rfl h
  · rw [← withLimits_self policy, hmarket] at h
    exact ⟨hkind, (evaluateMarket_ne_deny.mp h).1⟩

/-- **What is allowed is within the autonomous limit.** -/
theorem evaluatePolicy_autonomous
    (h : (evaluatePolicy req policy ctx nowUnix).verdict = .allow) :
    req.decodedAmount ≤ policy.autoLimit := by
  obtain ⟨reason, hdenied⟩ | ⟨slippage, volatility, _, hmarket⟩ :=
    evaluatePolicy_cases req policy ctx nowUnix
  · rw [← withLimits_self policy, hdenied] at h
    cases h
  · rw [← withLimits_self policy, hmarket] at h
    exact (evaluateMarket_allow.mp h).2.2.2.1

/-! The composite risk -/

theorem lt_int_mono {a : Js.Num} {m n : Int} (hmn : m ≤ n) (h : a.lt (.int n) = false) :
    a.lt (.int m) = false := by
  cases a with
  | int a =>
    have hle : ¬ a < n := by simpa using h
    have : ¬ a < m := by omega
    simpa using this
  | nan => rfl
  | inf negative => exact h

/-- An autonomous amount is no riskier under a higher limit. -/
theorem riskScore_mono {slippage volatility auto auto' escalation escalation' : Int}
    {amount : Int} (hamount : 0 ≤ amount) (hle : amount ≤ auto) (hauto : auto ≤ auto') :
    riskScore (policy.withLimits auto' escalation') slippage volatility amount
      ≤ riskScore (policy.withLimits auto escalation) slippage volatility amount := by
  have hquotient : amount.tdiv (if auto' > 0 then auto' else 1)
      ≤ amount.tdiv (if auto > 0 then auto else 1) := by
    by_cases hpos : auto > 0
    · rw [if_pos hpos, if_pos (by omega), Int.tdiv_eq_ediv_of_nonneg hamount,
        Int.tdiv_eq_ediv_of_nonneg hamount]
      rw [Int.le_ediv_iff_mul_le hpos]
      have hnonneg : 0 ≤ amount / auto' := Int.ediv_nonneg hamount (by omega)
      calc amount / auto' * auto ≤ amount / auto' * auto' :=
            Int.mul_le_mul_of_nonneg_left hauto hnonneg
        _ ≤ amount := Int.ediv_mul_le amount (by omega)
    · have hzero : amount = 0 := by omega
      rw [hzero, Int.zero_tdiv, Int.zero_tdiv]
  show (slippage * 3 + volatility).fdiv 4 + amount.tdiv (if auto' > 0 then auto' else 1) * 10
    ≤ (slippage * 3 + volatility).fdiv 4 + amount.tdiv (if auto > 0 then auto else 1) * 10
  omega

/-- **Higher limits permit at least as much**, of amounts that are not negative. -/
theorem evaluatePolicy_mono {auto auto' escalation escalation' : Int}
    (hauto : auto ≤ auto') (hescalation : escalation ≤ escalation')
    (hamount : 0 ≤ req.decodedAmount) :
    ((evaluatePolicy req (policy.withLimits auto escalation) ctx nowUnix).verdict = .allow →
      (evaluatePolicy req (policy.withLimits auto' escalation') ctx nowUnix).verdict = .allow) ∧
    ((evaluatePolicy req (policy.withLimits auto escalation) ctx nowUnix).verdict ≠ .deny →
      (evaluatePolicy req (policy.withLimits auto' escalation') ctx nowUnix).verdict ≠ .deny) := by
  obtain ⟨reason, hdenied⟩ | ⟨slippage, volatility, _, hmarket⟩ :=
    evaluatePolicy_cases req policy ctx nowUnix
  · rw [hdenied, hdenied]
    exact ⟨id, id⟩
  · rw [hmarket, hmarket]
    have hpermits : (evaluateMarket req (policy.withLimits auto escalation) ctx slippage
          volatility).verdict ≠ .deny →
        (evaluateMarket req (policy.withLimits auto' escalation') ctx slippage
          volatility).verdict ≠ .deny := by
      intro h
      obtain ⟨hwithin, hliquidity, hslippage⟩ := evaluateMarket_ne_deny.mp h
      exact evaluateMarket_ne_deny.mpr ⟨hwithin.trans hescalation, hliquidity, hslippage⟩
    refine ⟨fun h => ?_, hpermits⟩
    obtain ⟨hnot, hvolatility, hhealth, hwithin, hrisk⟩ := evaluateMarket_allow.mp h
    exact evaluateMarket_allow.mpr ⟨hpermits hnot, hvolatility, hhealth, hwithin.trans hauto,
      lt_int_mono (riskScore_mono hamount hwithin hauto) hrisk⟩

end ContextLock.Policy
