/-
  Subject:   What the commitment to a private policy binds.

  The id, the version, the switch and the thresholds are joined and hashed. All parts but the id are
  numbers and truth values, so the joined text gives them back, whatever the id is. The allow-lists
  of actions, targets and agents are no part of it.
-/
import ContextLock.Js.Join
import ContextLock.Js.NumText
import ContextLock.Policy.Risk
import ContextLock.Policy.Workflow

namespace ContextLock.Policy

open Js

/-- The numbers of a policy are values of a `number`. -/
structure PrivatePolicy.Numbers (p : PrivatePolicy) : Prop where
  policyVersion : p.policyVersion.IsDouble
  maxSlippageBps : p.maxSlippageBps.IsDouble
  maxVolatilityBps : p.maxVolatilityBps.IsDouble
  targetEthAllocationBps : p.targetEthAllocationBps.IsDouble
  rebalanceDriftBps : p.rebalanceDriftBps.IsDouble
  minHealthFactorBps : p.minHealthFactorBps.IsDouble
  targetHealthFactorBps : p.targetHealthFactorBps.IsDouble
  proprietaryRiskThreshold : p.proprietaryRiskThreshold.IsDouble

/-- The policy with the canary and the allow-lists of another. -/
def PrivatePolicy.listedAs (p q : PrivatePolicy) : PrivatePolicy :=
  { p with
    canary := q.canary
    allowedActionKinds := q.allowedActionKinds
    allowedTargets := q.allowedTargets
    authorizedAgentIdentityHashes := q.authorizedAgentIdentityHashes }

def commitmentText (p : PrivatePolicy) : String := "|".intercalate (commitmentParts p)

theorem boolText_inj {a b : Bool} (h : boolText a = boolText b) : a = b := by
  cases a <;> cases b <;> first | rfl | exact absurd h (by decide)

theorem bar_not_mem_parts (p : PrivatePolicy) : ∀ t ∈ (commitmentParts p).tail, '|' ∉ t.toList := by
  have hbool : ∀ b, '|' ∉ (boolText b).toList := by decide
  intro t ht
  simp only [commitmentParts, List.tail_cons, List.mem_cons, List.not_mem_nil, or_false] at ht
  rcases ht with rfl | rfl | rfl | rfl | rfl | rfl | rfl | rfl | rfl | rfl | rfl | rfl
  · exact bar_not_mem_text _
  · exact hbool _
  · exact bar_not_mem_toString _
  · exact bar_not_mem_toString _
  · exact bar_not_mem_text _
  · exact bar_not_mem_text _
  · exact bar_not_mem_toString _
  · exact bar_not_mem_text _
  · exact bar_not_mem_text _
  · exact bar_not_mem_text _
  · exact bar_not_mem_text _
  · exact bar_not_mem_text _

section Binding

variable {p q : PrivatePolicy}

/-- **The text gives back what is committed.** -/
theorem commitmentText_eq_iff (hp : p.Numbers) (hq : q.Numbers) :
    commitmentText p = commitmentText q ↔ p = q.listedAs p := by
  constructor
  · intro h
    have hcut : ∀ r : PrivatePolicy, commitmentText r =
        "|".intercalate (r.policyId :: (commitmentParts r).tail) := fun _ => rfl
    rw [hcut, hcut] at h
    have hbar : "|".toList = ['|'] := rfl
    have hlength : (commitmentParts p).tail.length = (commitmentParts q).tail.length := rfl
    obtain ⟨hid, hparts⟩ := intercalate_inj hbar hlength (bar_not_mem_parts p)
      (bar_not_mem_parts q) h
    simp only [commitmentParts, List.tail_cons, List.cons.injEq, and_true] at hparts
    obtain ⟨hversion, henabled, hauto, hescalation, hslippage, hvolatility, hliquidity, hallocation,
      hdrift, hminimum, htarget, hrisk⟩ := hparts
    obtain ⟨id, version, enabled, auto, escalation, slippage, volatility, liquidity, allocation,
      drift, minimum, target, risk, canary, kinds, targets, agents⟩ := p
    simp only [PrivatePolicy.listedAs, PrivatePolicy.mk.injEq, and_true]
    exact ⟨hid, Num.text_inj hp.policyVersion hq.policyVersion hversion, boolText_inj henabled,
      toString_int_inj hauto, toString_int_inj hescalation,
      Num.text_inj hp.maxSlippageBps hq.maxSlippageBps hslippage,
      Num.text_inj hp.maxVolatilityBps hq.maxVolatilityBps hvolatility, toString_int_inj hliquidity,
      Num.text_inj hp.targetEthAllocationBps hq.targetEthAllocationBps hallocation,
      Num.text_inj hp.rebalanceDriftBps hq.rebalanceDriftBps hdrift,
      Num.text_inj hp.minHealthFactorBps hq.minHealthFactorBps hminimum,
      Num.text_inj hp.targetHealthFactorBps hq.targetHealthFactorBps htarget,
      Num.text_inj hp.proprietaryRiskThreshold hq.proprietaryRiskThreshold hrisk⟩
  · intro h
    rw [h]
    rfl

/-- **The commitment binds the id, the version, the switch and every threshold**, and nothing else:
    policies without a collision of the hash have equal commitments exactly where they agree in all
    but the canary and the allow-lists. -/
theorem policyCommitment_eq_iff (hp : p.Numbers) (hq : q.Numbers)
    (hno : Evm.NoCollision (Evm.textBytes (commitmentText p)) (Evm.textBytes (commitmentText q))) :
    policyCommitment p = policyCommitment q ↔ p = q.listedAs p := by
  rw [← commitmentText_eq_iff hp hq]
  constructor
  · exact fun h => Evm.textBytes_inj (hno h)
  · exact fun h => congrArg Evm.keccakText h

end Binding

/-! The lists -/

def retargetedPolicy : PrivatePolicy := { lendingPolicy with allowedTargets := ["0xother"] }

theorem numbers_lendingPolicy : lendingPolicy.Numbers := by
  refine ⟨?_, ?_, ?_, ?_, ?_, ?_, ?_, ?_⟩ <;> decide

theorem numbers_retargetedPolicy : retargetedPolicy.Numbers := by
  refine ⟨?_, ?_, ?_, ?_, ?_, ?_, ?_, ?_⟩ <;> decide

/-- The two policies agree in all but their lists. -/
theorem commitment_retargeted :
    policyCommitment lendingPolicy = policyCommitment retargetedPolicy ↔
      lendingPolicy = retargetedPolicy.listedAs lendingPolicy :=
  policyCommitment_eq_iff numbers_lendingPolicy numbers_retargetedPolicy fun _ => rfl

/-- **The targets are not committed**: policies with equal texts and commitments, of which one allows
    a request that the other denies. -/
theorem targets_not_committed :
    Evm.NoCollision (Evm.textBytes (commitmentText lendingPolicy))
        (Evm.textBytes (commitmentText retargetedPolicy)) ∧
      policyCommitment lendingPolicy = policyCommitment retargetedPolicy ∧
      lendingPolicy.allowedTargets ≠ retargetedPolicy.allowedTargets ∧
      (evaluatePolicy repayRequest lendingPolicy (Market.context ⟨1000, 10, 20, 50, 0⟩)
        1000).verdict = .allow ∧
      (evaluatePolicy repayRequest retargetedPolicy (Market.context ⟨1000, 10, 20, 50, 0⟩)
        1000).verdict = .deny := by
  refine ⟨fun _ => rfl, rfl, by decide, ?_, ?_⟩
  · decide
  · decide

end ContextLock.Policy
