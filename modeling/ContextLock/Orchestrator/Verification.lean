/-
  Subject:   Is a deployment verified before it is ready to be activated?

  The phase machine has one way into readiness, through the phase of verification, but `finish`
  passes through that phase by itself once every step is done. What keeps a run from readiness
  is an undone step; a verification is certain only where the plan has a step for it that was
  not done when the run began.
-/
import ContextLock.Orchestrator.Undone

namespace ContextLock.Orchestrator

open Js Deploy Machine

/-! ## 1. Verifications -/

def verifies : (e : Effect) → Reply e → Prop
  | .observe step _ _, .ok seen => step.type = .POST_DEPLOY_VERIFY ∧ seen.satisfied = true
  | _, _ => False

instance : (e : Effect) → (r : Reply e) → Decidable (verifies e r)
  | .observe step _ _, .ok seen =>
    inferInstanceAs (Decidable (step.type = .POST_DEPLOY_VERIFY ∧ seen.satisfied = true))
  | .observe _ _ _, .error _ => instDecidableFalse
  | .nowMs, _ | .sleep _, _ | .waiting, _ | .getTransactionCount _ _ _, _
  | .getTransactionReceipt _ _, _ | .getBlockNumber _, _ | .resolveCalldata _ _, _
  | .sendTransaction _ _, _ | .creCurrentArtifact, _ | .creDeploy _ _ _ _, _
  | .creLifecycle _ _, _ | .creAuthValid, _ | .imageBuild _, _ | .imageScan _, _
  | .imagePublish _, _ | .imageCreateDisabled _ _, _ => instDecidableFalse

/-- The move is such an answer. -/
def Verifies (d : Deployment) : Move → Prop
  | .answer reply =>
    match d.process with
    | .call _ e _ => ∃ r ∈ reply e, verifies e r
    | _ => False
  | _ => False

instance : (d : Deployment) → (a : Move) → Decidable (Verifies d a)
  | ⟨.call _ e _, _⟩, .answer reply =>
    inferInstanceAs (Decidable (∃ r ∈ reply e, verifies e r))
  | ⟨.ok _ _, _⟩, .answer _ | ⟨.threw _ _, _⟩, .answer _ => instDecidableFalse
  | _, .begin _ _ _ _ | _, .broadcast _ | _, .chain _ | _, .reload _ => instDecidableFalse

def AsksVerification (plan : DeploymentPlan) : Prop :=
  ∃ s ∈ plan.steps, s.type = .POST_DEPLOY_VERIFY ∧ s.done = false

instance (plan : DeploymentPlan) : Decidable (AsksVerification plan) :=
  inferInstanceAs (Decidable (∃ s ∈ plan.steps, _ ∧ _))

/-! ## 2. The step of a verification -/

theorem executeObservation_staysOpen {t : DeploymentPlan} {step : DeploymentStep}
    {manifest : DeploymentManifest} {run : DeploymentRun} (h : Open t step.id run)
    (htype : step.type = .POST_DEPLOY_VERIFY) :
    StaysOpen verifies t step.id (executeObservation step manifest run) := by
  refine observe_staysOpen h (fun _ _ hsat => ⟨htype, hsat⟩) fun seen hsat => ?_
  simp only [hsat, Bool.false_eq_true, not_false_eq_true, if_true]
  exact h.failed

theorem needsVerification {plan : DeploymentPlan} {knownSignerIds : List String}
    (hvalid : validatePlan plan knownSignerIds = .ok ()) {v : DeploymentStep}
    (hv : v ∈ plan.steps) (hvtype : v.type = .POST_DEPLOY_VERIFY) :
    NeedsAnswer verifies plan.terms v.id := by
  have htype : ∀ s : DeploymentStep, s.terms ∈ plan.terms.steps → s.id = v.id →
      s.type = .POST_DEPLOY_VERIFY := fun s hs hid =>
    (congrArg DeploymentStep.type (terms_unique hvalid hv hs hid) :).trans hvtype
  refine ⟨⟨v.terms, mem_terms_of_mem hv, rfl⟩, ?_, ?_⟩
  · intro step manifest hs hid created seen hsat
    exact ⟨htype step hs hid, hsat⟩
  · intro deps polls step manifest run hs hid hopen
    have hhandler : handler deps polls step manifest = executeObservation step manifest := by
      simp only [handler, htype step hs hid]
    rw [hhandler]
    rw [← hid] at hopen ⊢
    exact executeObservation_staysOpen hopen (htype step hs hid)

/-! ## 3. Whole runs -/

/-- **A run of a plan that asks for a verification is ready only verified.** -/
theorem ready_only_verified {plan : DeploymentPlan} {knownSignerIds : List String}
    (hvalid : validatePlan plan knownSignerIds = .ok ()) (hasks : AsksVerification plan)
    {deploymentId : String} {count : Nat → String → Nat} {past : List (Deployment × Move)}
    {d : Deployment} (h : Journey (newRun deploymentId plan) count past d)
    (hready : d.process.state.state = .READY_TO_ACTIVATE) : ∃ e ∈ past, Verifies e.1 e.2 := by
  obtain ⟨v, hv, hvtype, hundone⟩ := hasks
  obtain hverified | hu := journey_undone (needsVerification hvalid hv hvtype)
    (open_newRun hvalid hv hundone deploymentId) h
  · exact hverified
  · exact absurd hready hu.state.unready

/-- A run of one call, with the answers after the first changed. -/
def observedRun (first rest : Answers) (n : Nat) : List Move :=
  beginConsumer :: first.times 1 ++ rest.times n

theorem observedRun_approved (steps : List DeploymentStep) (first rest : Answers) (n : Nat) :
    ∀ a ∈ observedRun first rest n, a.approvedFor (planOf steps).terms := by
  simp only [observedRun, beginConsumer, Answers.times, List.mem_append, List.mem_cons,
    List.mem_replicate]
  rintro a ((rfl | ⟨_, rfl⟩) | ⟨_, rfl⟩)
  · exact planOf_approved steps
  · trivial
  · trivial

theorem ready_only_verified_observed :
    ∃ past d, Journey (newRun "deployment" (planOf [observation "post-verify" .POST_DEPLOY_VERIFY]))
        (fun _ _ => 5) past d ∧ d.process.state.state = .READY_TO_ACTIVATE ∧
      ∃ e ∈ past, Verifies e.1 e.2 := by
  let step := observation "post-verify" .POST_DEPLOY_VERIFY
  have hrun : ((execute (guarded stepApproved fun _ _ => True) (consumerStart [step])
      (observedRun { seen := false } { seen := true } 5)).map (·.process.state.state)) =
      some .READY_TO_ACTIVATE := by decide
  obtain ⟨d, hd, hready⟩ := Option.map_eq_some_iff.mp hrun
  have hguard : ∀ d (_ : Move), KeptTerms (planOf [step]).terms d → True → True :=
    fun _ _ _ h => h
  have hstep := execute_approved hguard (keptTerms_consumerStart _)
    (observedRun_approved [step] _ _ _) hd
  obtain ⟨past, hj, _⟩ := journey_of_execute .start (by simp)
    (by simp [observedRun, beginConsumer, Answers.times]) hstep
  have hvalid : validatePlan (planOf [step]) [] = .ok () := by decide
  exact ⟨past, d, hj, hready, ready_only_verified hvalid (by decide) hj hready⟩

/-- **A valid plan without a verification** is ready with nothing verified. -/
theorem ready_unverified :
    validatePlan (planOf [observation "verify-chain" .VERIFY_CHAIN]) [] = .ok () ∧
      ∃ past d, Journey (newRun "deployment" (planOf [observation "verify-chain" .VERIFY_CHAIN]))
          (fun _ _ => 5) past d ∧ d.process.state.state = .READY_TO_ACTIVATE ∧
        ∀ e ∈ past, ¬ Verifies e.1 e.2 := by
  refine ⟨by decide, ?_⟩
  let step := observation "verify-chain" .VERIFY_CHAIN
  have hrun : ((execute (guarded stepApproved fun d a => ¬ Verifies d a) (consumerStart [step])
      (observedRun { seen := true } { seen := true } 4)).map (·.process.state.state)) =
      some .READY_TO_ACTIVATE := by decide
  obtain ⟨d, hd, hready⟩ := Option.map_eq_some_iff.mp hrun
  have hstep := execute_approved (fun _ _ _ h => h) (keptTerms_consumerStart _)
    (observedRun_approved [step] _ _ _) hd
  obtain ⟨past, hj, hnot⟩ := journey_of_execute .start (by simp)
    (by simp [observedRun, beginConsumer, Answers.times]) hstep
  exact ⟨past, d, hj, hready, hnot⟩

end ContextLock.Orchestrator
