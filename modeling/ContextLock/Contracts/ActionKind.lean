/-
  Subject:   The action kind is the submitter's choice among those the policy allows.

  Neither the capability nor the request hash has a field for the action kind, so nothing ties
  the kind passed to `execute` to the one a request was evaluated for.
-/
import ContextLock.Contracts.Provision

namespace ContextLock

open Evm
open Executor (Submission)

/-- The same submission, declared as kind `k`. -/
def Executor.Submission.as (x : Submission) (k : Bytes32) : Submission := { x with actionKind := k }

def kindAllowed (w : World) (cap : Capability) (k : Bytes32) : Bool :=
  w.policy.isActionAllowed cap.agentIdentityHash cap.policyHash k

section Gate

variable {d : Deployment} {w : World} {x : Submission} {k₁ k₂ : Bytes32}

theorem validatePolicy_congr (h : kindAllowed w x.cap k₁ = kindAllowed w x.cap k₂) :
    Executor.validatePolicy w x.cap k₁ = Executor.validatePolicy w x.cap k₂ := by
  unfold kindAllowed at h
  unfold Executor.validatePolicy
  rw [h]

theorem validate_congr (h : kindAllowed w x.cap k₁ = kindAllowed w x.cap k₂) :
    Executor.validate d w (x.as k₁) = Executor.validate d w (x.as k₂) := by
  have hp : Executor.validatePolicy w (x.as k₁).cap (x.as k₁).actionKind
      = Executor.validatePolicy w (x.as k₂).cap (x.as k₂).actionKind := validatePolicy_congr h
  unfold Executor.validate
  rw [hp]
  rfl

theorem execute_congr {target : World → Except Bytes (World × Bytes)}
    (h : kindAllowed w x.cap k₁ = kindAllowed w x.cap k₂) :
    Executor.execute d (x.as k₁) target w = Executor.execute d (x.as k₂) target w := by
  have hv : Executor.validate d (Executor.lock w) (x.as k₁)
      = Executor.validate d (Executor.lock w) (x.as k₂) := validate_congr h
  simp only [Executor.execute, hv]
  rfl

/-- **The action kind is a gate, not a binding.** For every state, capability, signature and
    calldata: a kind that executes is allowed by the policy the capability names; and two kinds
    that are both allowed, or both not, have the same outcome, result or error. -/
theorem action_kind_gate (d : Deployment) (w : World) (x : Submission)
    (target : World → Except Bytes (World × Bytes)) (k₁ k₂ : Bytes32) :
    (∀ w' ret, Executor.execute d (x.as k₁) target w = .ok (w', ret) →
      kindAllowed w x.cap k₁ = true) ∧
    (kindAllowed w x.cap k₁ = kindAllowed w x.cap k₂ →
      Executor.execute d (x.as k₁) target w = Executor.execute d (x.as k₂) target w) := by
  refine ⟨fun w' ret h => ?_, fun h => ?_⟩
  · obtain ⟨_, hv, _⟩ := Executor.execute_iff.mp h
    exact hv.policy.action
  · exact execute_congr h

end Gate

/-! ## A request evaluated as one kind, executed as another -/

/-- The request for the sample capability's transaction, as kind `0x16`. -/
def sampleArgs : Gateway.Args where
  agentIdentityHash := 0x11
  agent := 0xA0
  ensNode := 0
  target := 0xA1
  value := 0
  callData := []
  intentHash := 0x12
  policyId := 0x13
  policyVersion := 1
  actionKind := 0x16

/-- The sample capability with an ALLOW, under a policy with the kinds `0x16` and `0x17`. -/
def twoKindsWorld : World :=
  provisioned sampleDeployment sampleSubmission .allow (fun k => k = 0x16 ∨ k = 0x17) 1100
    noApprovals

/-- **The kind can be chosen at execution**: the request that was evaluated names `0x16`, its
    hash is the one the authorization holds, and the execution as `0x17` succeeds. -/
theorem kind_chosen_at_execution :
    (∃ s q ev, Gateway.requestEvaluation sampleDeployment.host sampleDeployment.executorBinding
        1000 twoKindsWorld.gateway sampleArgs = .ok (s, q, ev) ∧ ev.actionKind = 0x16 ∧
      q = (twoKindsWorld.authorization.getAuthorization
        sampleSubmission.cap.authorizationId).requestHash) ∧
    (∃ w' ret, Executor.execute sampleDeployment (sampleSubmission.as 0x16)
      (Code.run sampleDeployment (.halt true [])) twoKindsWorld = .ok (w', ret)) ∧
    ∃ w' ret, Executor.execute sampleDeployment (sampleSubmission.as 0x17)
      (Code.run sampleDeployment (.halt true [])) twoKindsWorld = .ok (w', ret) := by
  have h16 : Executor.execute sampleDeployment (sampleSubmission.as 0x16)
      (Code.run sampleDeployment (.halt true [])) twoKindsWorld = .ok (_, []) :=
    provisioned_executes sample_wellFormed (by decide) rfl
  have hk : kindAllowed twoKindsWorld sampleSubmission.cap 0x16
      = kindAllowed twoKindsWorld sampleSubmission.cap 0x17 := by decide
  obtain ⟨s, q, ev, hreq⟩ : ∃ s q ev, Gateway.requestEvaluation sampleDeployment.host
      sampleDeployment.executorBinding 1000 twoKindsWorld.gateway sampleArgs = .ok (s, q, ev) :=
    ⟨_, _, _, rfl⟩
  obtain ⟨_, rfl, _, rfl⟩ := Gateway.requestEvaluation_ok hreq
  exact ⟨⟨s, _, _, hreq, rfl, rfl⟩, ⟨_, _, h16⟩, _, _, (execute_congr hk).symm.trans h16⟩

end ContextLock
