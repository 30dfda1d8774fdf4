/-
  Subject:   Is what a run sends what was approved?
-/
import ContextLock.Orchestrator.Approved

namespace ContextLock.Orchestrator

open Js Deploy Machine

/-! ## 1. The conditions -/

def sameAddress (a b : Option String) : Prop := a.map toLowerCase = b.map toLowerCase

instance (a b : Option String) : Decidable (sameAddress a b) := inferInstanceAs (Decidable (_ = _))

/-- The transaction a step asks for. -/
structure AsPlanned (manifest : DeploymentManifest) (step : DeploymentStep) (req : SendRequest) :
    Prop where
  chain : step.chainId = some req.chainId
  signer : ∃ s ∈ manifest.requiredSigners,
    some s.signerId = step.requiredSigner ∧ s.address = some req.sender
  target : if step.type = .DEPLOY_CONTRACT then req.recipient = none
    else sameAddress req.recipient step.target
  calldata : step.calldataHash = some (calldataDigest req.data)

/-- A call about a step of the plan, and about the manifest. -/
def Effect.ofPlan (t : DeploymentPlan) (manifest : DeploymentManifest) : Effect → Prop
  | .sendTransaction step req => step.terms ∈ t.steps ∧ AsPlanned manifest step req
  | .resolveCalldata step m => step.terms ∈ t.steps ∧ m = manifest
  | .observe step m _ => step.terms ∈ t.steps ∧ m = manifest
  | _ => True

/-- The approval in the plan is one of this very plan. -/
def Unedited (plan : DeploymentPlan) : Prop :=
  ∀ a ∈ plan.approval, a.planHash = deploymentPlanHash plan

instance (plan : DeploymentPlan) : Decidable (Unedited plan) :=
  inferInstanceAs (Decidable (∀ a ∈ plan.approval, a.planHash = deploymentPlanHash plan))

def resolvedAsPlanned : (e : Effect) → Reply e → Prop
  | .resolveCalldata step _, .ok prepared =>
    (truthy step.calldataHash).isSome ∧
      (step.type = .DEPLOY_CONTRACT ∨ sameAddress prepared.recipient step.target)
  | _, _ => True

instance : (e : Effect) → (r : Reply e) → Decidable (resolvedAsPlanned e r)
  | .resolveCalldata step _, .ok prepared =>
    inferInstanceAs (Decidable ((truthy step.calldataHash).isSome ∧
      (step.type = .DEPLOY_CONTRACT ∨ sameAddress prepared.recipient step.target)))
  | .resolveCalldata _ _, .error _ => instDecidableTrue
  | .nowMs, _ | .sleep _, _ | .waiting, _ | .getTransactionCount _ _ _, _
  | .getTransactionReceipt _ _, _ | .getBlockNumber _, _ | .sendTransaction _ _, _
  | .observe _ _ _, _ | .creCurrentArtifact, _ | .creDeploy _ _ _ _, _ | .creLifecycle _ _, _
  | .creAuthValid, _ | .imageBuild _, _ | .imageScan _, _ | .imagePublish _, _
  | .imageCreateDisabled _ _, _ => instDecidableTrue

def AnswersAsPlanned (d : Deployment) : Move → Prop
  | .answer reply =>
    match d.process with
    | .call _ e _ => ∀ r ∈ reply e, resolvedAsPlanned e r
    | _ => True
  | _ => True

instance : (d : Deployment) → (a : Move) → Decidable (AnswersAsPlanned d a)
  | ⟨.call _ e _, _⟩, .answer reply =>
    inferInstanceAs (Decidable (∀ r ∈ reply e, resolvedAsPlanned e r))
  | ⟨.ok _ _, _⟩, .answer _ | ⟨.threw _ _, _⟩, .answer _ => instDecidableTrue
  | _, .begin _ _ _ _ | _, .broadcast _ | _, .chain _ | _, .reload _ => instDecidableTrue

def StartsUnedited (d : Deployment) : Move → Prop
  | .begin _ _ _ _ => Unedited d.process.state.plan
  | _ => True

instance (d : Deployment) (a : Move) : Decidable (StartsUnedited d a) := by
  unfold StartsUnedited
  split <;> infer_instance

/-- Runs are started on unedited plans, and every answer is as planned. -/
def Faithful (d : Deployment) (a : Move) : Prop := StartsUnedited d a ∧ AnswersAsPlanned d a

instance (d : Deployment) (a : Move) : Decidable (Faithful d a) :=
  inferInstanceAs (Decidable (_ ∧ _))

/-- The plan and the manifest that were approved. -/
structure Signed (t : DeploymentPlan) (manifest : DeploymentManifest) : Prop where
  intro ::
  approved : ∃ a, t.approval = some a ∧ a.planHash = deploymentPlanHash t ∧
    a.manifestHash = Deploy.manifestHash manifest

/-- Whatever the run waits for: its plan is the one that was signed, and the call is about a
    step of that plan and about the manifest that was approved. -/
def SentAsSigned (d : Deployment) : Prop :=
  ∀ run e k, d.process = .call run e k → ∃ manifest, Signed run.plan manifest ∧
    e.ofPlan run.plan.terms manifest

/-! ## 2. One call of the orchestrator -/

section Runs

variable {t : DeploymentPlan} {manifest : DeploymentManifest}

/-- Answers are as planned, and calls are to be of the plan. -/
def signRules (t : DeploymentPlan) (manifest : DeploymentManifest) :
    Rules DeploymentRun Effect Reply Unit where
  drift _ _ _ _ := True
  answer _ e _ r _ := resolvedAsPlanned e r
  holds run e _ := run.terms = t ∧ e.ofPlan t manifest

abbrev OfPlan (t : DeploymentPlan) (manifest : DeploymentManifest)
    (p : Script DeploymentRun Effect Reply DeployError Unit) : Prop :=
  p.Safe (signRules t manifest) (fun _ run _ => run.terms = t) (fun _ run _ => run.terms = t) ()

abbrev Planned (t : DeploymentPlan) (manifest : DeploymentManifest) (step : DeploymentStep)
    (m : DeploymentManifest) : Prop := step.terms ∈ t.steps ∧ m = manifest

theorem ofPlan_of_within {e : Effect} (h : e.within (Planned t manifest)) :
    e.ofPlan t manifest := by
  cases e <;> first | exact h | exact h.elim

theorem terms_stable : (signRules t manifest).Stable DeploymentRun.terms
    (Effect.within (Planned t manifest)) fun t' _ => t' = t where
  drift _ _ _ _ _ _ h := h
  answer _ _ _ _ _ _ _ h := h
  holds _ _ _ he h := ⟨h, ofPlan_of_within he⟩

theorem ofPlan_bind {α : Type} {m : Orchestrated α} {f : α → Orchestrated Unit}
    (hm : Silent DeploymentRun.terms (Planned t manifest) m) {run : DeploymentRun}
    (h : run.terms = t)
    (hf : ∀ a run', run'.terms = t → OfPlan t manifest (f a run')) :
    OfPlan t manifest ((m >>= f) run) := by
  refine Script.Safe.bind ?_
  refine (Script.Safe.of_keeps terms_stable (hm run) h).mono ?_ ?_
  · rintro a run' _ ⟨he, _⟩
    exact hf a run' (he.trans h)
  · rintro _ run' _ ⟨he, _⟩
    exact he.trans h

theorem Silent.ofPlan {m : Orchestrated Unit}
    (hm : Silent DeploymentRun.terms (Planned t manifest) m) {run : DeploymentRun}
    (h : run.terms = t) : OfPlan t manifest (m run) := by
  refine (Script.Safe.of_keeps terms_stable (hm run) h).mono ?_ ?_
  · rintro _ run' _ ⟨he, _⟩
    exact he.trans h
  · rintro _ run' _ ⟨he, _⟩
    exact he.trans h

/-- The chain and the address a write is sent from. -/
theorem writeTarget_eq_ok {deps : Deps} {step : DeploymentStep} {chainId : Nat}
    {signerId sender : String}
    (h : writeTarget deps step manifest = .ok (chainId, signerId, sender)) :
    step.chainId = some chainId ∧ ∃ s ∈ manifest.requiredSigners,
      some s.signerId = step.requiredSigner ∧ s.address = some sender := by
  unfold writeTarget at h
  cases hc : step.chainId with
  | none =>
    rw [hc] at h
    cases h
  | some chain =>
    simp only [hc] at h
    split at h
    · cases h
    split at h
    · cases h
    split at h
    · cases h
    · rename_i hsigner
      obtain ⟨rfl, rfl, rfl⟩ : chain = chainId ∧ _ = signerId ∧ _ = sender := by
        simpa using h
      obtain ⟨s, hs, hbind⟩ := Option.bind_eq_some_iff.mp hsigner
      obtain ⟨address, haddr, hpair⟩ := Option.map_eq_some_iff.mp hbind
      obtain ⟨rfl, rfl⟩ := Prod.mk.inj hpair
      exact ⟨rfl, s, List.mem_of_find?_eq_some hs, by simpa using List.find?_some hs,
        eq_of_truthy haddr⟩

/-- **What passes the checks, resolved as planned, is the transaction the step asks for.** -/
theorem asPlanned_sendRequest {deps : Deps} {step : DeploymentStep} {prepared : Prepared}
    {chainId : Nat} {signerId sender : String} (nonce : Nat)
    (htarget : writeTarget deps step manifest = .ok (chainId, signerId, sender))
    (hplanned : resolvedAsPlanned (.resolveCalldata step manifest) (.ok prepared))
    (hcheck : checkPrepared step prepared = .ok ()) :
    AsPlanned manifest step (sendRequest step prepared chainId sender nonce) := by
  obtain ⟨hchain, hsigner⟩ := writeTarget_eq_ok htarget
  obtain ⟨hpinned, hto⟩ := hplanned
  refine ⟨hchain, hsigner, ?_, ?_⟩
  · unfold sendRequest
    by_cases hd : step.type = .DEPLOY_CONTRACT
    · simp [hd]
    · simpa [hd] using hto
  · obtain ⟨approved, ha⟩ := Option.isSome_iff_exists.mp hpinned
    have hsame : calldataDigest prepared.data = approved := by
      by_contra hne
      have hfilter : (truthy step.calldataHash).filter (calldataDigest prepared.data ≠ ·) =
          some approved := by
        rw [ha, Option.filter_some]
        simp [hne]
      simp only [checkPrepared, hfilter] at hcheck
      cases hcheck
    show step.calldataHash = some (calldataDigest prepared.data)
    rw [hsame]
    exact eq_of_truthy ha

theorem executeWrite_ofPlan (deps : Deps) (polls : Nat) {step : DeploymentStep}
    {run : DeploymentRun} (hstep : step.terms ∈ t.steps) (h : run.terms = t) :
    OfPlan t manifest (executeWrite deps polls step manifest run) := by
  unfold executeWrite
  cases htarget : writeTarget deps step manifest with
  | error e => exact h
  | ok target =>
  obtain ⟨chainId, signerId, sender⟩ := target
  refine ofPlan_bind (getTransactionCount_reads _ _ _).keeps h
    fun nonce run₁ h₁ => ?_
  refine Script.Safe.wait (A := fun _ => True) (fun _ _ _ _ => trivial)
    (fun _ _ => ⟨h₁, hstep, rfl⟩) trivial fun _ reply _ _ hplanned => ?_
  cases reply with
  | error e => exact h₁
  | ok prepared =>
  change OfPlan t manifest ((Act.lift (checkPrepared step prepared) >>= _ : Orchestrated Unit) run₁)
  cases hcheck : checkPrepared step prepared with
  | error e => exact h₁
  | ok u =>
  refine ofPlan_bind (m := Act.lift (.ok u)) (.lift _) h₁ fun _ run₂ h₂ => ?_
  refine ofPlan_bind (setStatus_keeps (terms_status _) _) h₂ fun _ run₃ h₃ => ?_
  refine Script.Safe.wait (A := fun _ => True) (fun _ _ _ _ => trivial)
    (fun _ _ => ⟨h₃, hstep, asPlanned_sendRequest nonce htarget hplanned hcheck⟩) trivial
    fun _ reply _ _ _ => ?_
  cases reply with
  | error e =>
    exact Silent.ofPlan (sendFailed_keeps (terms_status _) (terms_record _) _ _ _) h₃
  | ok hash =>
    exact Silent.ofPlan (.bind nowMs_keeps fun _ => .bind (setRecord_keeps (terms_record _) _)
      fun _ => settleWrite_keeps (terms_status _) (terms_record _) _ _ ⟨hstep, rfl⟩ _ _) h₃

theorem executeStep_ofPlan (deps : Deps) (polls : Nat) {step : DeploymentStep}
    {run : DeploymentRun} (hstep : step.terms ∈ t.steps) (h : run.terms = t) :
    OfPlan t manifest (executeStep deps polls step manifest run) := by
  have hhandler : ∀ run : DeploymentRun, run.terms = t →
      OfPlan t manifest (handler deps polls step manifest run) := by
    intro run h
    by_cases hw : writes step.type
    · rw [handler_write hw]
      exact executeWrite_ofPlan deps polls hstep h
    · exact (handler_keeps (terms_status _) hw ⟨hstep, rfl⟩).ofPlan h
  unfold executeStep
  split
  · exact h
  refine ofPlan_bind (.lift _) h fun phase run₁ h₁ => ?_
  refine ofPlan_bind (moveTo_keeps_of_free (fun _ _ => rfl) _) h₁ fun _ run₂ h₂ => ?_
  refine ofPlan_bind .get h₂ fun run₃ run₄ h₄ => ?_
  cases run₃.transactions.get? step.id with
  | none => exact hhandler run₄ h₄
  | some existing => exact ofPlan_bind (.lift _) h₄ fun _ run₅ h₅ => hhandler run₅ h₅

theorem runSteps_ofPlan (deps : Deps) (polls : Nat) (maxSteps : Nat) {run : DeploymentRun}
    (h : run.terms = t) : OfPlan t manifest (runSteps deps polls manifest maxSteps run) := by
  induction maxSteps generalizing run with
  | zero => exact h
  | succ n ih =>
    cases hn : nextStep run with
    | none =>
      rw [runSteps_of_none hn]
      exact h
    | some step =>
      rw [runSteps_of_some hn]
      have hstep : step.terms ∈ t.steps := h ▸ nextStep_mem hn
      exact Script.Safe.bind ((executeStep_ofPlan deps polls hstep h).mono (fun _ _ _ h' => ih h')
        fun _ _ _ h' => h')

theorem resumeApproved_ofPlan (deps : Deps) {run : DeploymentRun} (h : run.terms = t) :
    OfPlan t manifest (resumeApproved deps manifest run) := by
  refine ofPlan_bind (m := (get : Orchestrated DeploymentRun)) .get h
    fun run₁ run₂ h₂ => ?_
  refine ofPlan_bind (.forM fun _ => reconcileUnknown_keeps _ (terms_record _)) h₂
    fun _ run₃ h₃ => ?_
  change OfPlan t manifest (run₃.plan.steps.forM (observeStep manifest) run₃)
  refine Script.Safe.forM (I := fun run : DeploymentRun => fun _ => run.terms = t) ?_ h₃
  intro step hstep run _ h
  have hmem : step.terms ∈ t.steps := h₃ ▸ mem_terms_of_mem hstep
  exact Silent.ofPlan (observeStep_keeps (terms_status _) ⟨hmem, rfl⟩) h

/-- **A call of the orchestrator.** -/
theorem runToCompletion_ofPlan (deps : Deps) (polls maxSteps : Nat) {run : DeploymentRun}
    (h : run.terms = t) : OfPlan t manifest (runToCompletion deps polls manifest maxSteps run) := by
  by_cases ha : run.state ∈ RESUMABLE_STATES ∧ assertApprovedFor run.plan manifest = .ok ()
  · rw [runToCompletion_of_approved ha.1 ha.2]
    refine Script.Safe.bind ((resumeApproved_ofPlan deps h).mono ?_ fun _ _ _ h' => h')
    intro _ run₁ _ h₁
    refine Script.Safe.bind ((runSteps_ofPlan deps polls maxSteps h₁).mono ?_ fun _ _ _ h' => h')
    intro _ run₂ _ h₂
    exact Silent.ofPlan (finish_keeps fun _ _ => rfl) h₂
  · obtain ⟨e, he⟩ := runToCompletion_of_refused deps polls maxSteps (not_and_or.mp ha)
    rw [he]
    exact h

end Runs

/-! ## 3. Whole runs -/

theorem signed_of_approved {plan : DeploymentPlan} {manifest : DeploymentManifest}
    (hu : Unedited plan) (h : assertApprovedFor plan manifest = .ok ()) :
    Signed plan.terms manifest := by
  obtain ⟨_, a, ha, hcovers⟩ := assertApprovedFor_eq_ok.mp h
  refine ⟨a, ha, ?_, hcovers.manifest⟩
  rw [deploymentPlanHash_terms]
  exact hu a ha

def RunsSigned (d : Deployment) : Prop :=
  d.process.ended = true ∨ ∃ t manifest, Signed t manifest ∧ OfPlan t manifest d.process

theorem runsSigned_step {d d' : Deployment} {a : Move} (h : RunsSigned d)
    (hs : guarded step Faithful d a = some d') : RunsSigned d' := by
  obtain ⟨⟨hunedited, hplanned⟩, hs⟩ := guarded_eq_some.mp hs
  cases a with
  | begin deps polls manifest maxSteps =>
    simp only [step] at hs
    split at hs
    · obtain rfl := Option.some.inj hs
      by_cases ha : d.process.state.state ∈ RESUMABLE_STATES ∧
          assertApprovedFor d.process.state.plan manifest = .ok ()
      · exact Or.inr ⟨_, manifest, signed_of_approved hunedited ha.2,
          runToCompletion_ofPlan deps polls maxSteps rfl⟩
      · obtain ⟨e, he⟩ := runToCompletion_of_refused deps polls maxSteps (not_and_or.mp ha)
        refine Or.inl ?_
        show (runToCompletion deps polls manifest maxSteps d.process.state).ended = true
        rw [he]
        rfl
    · cases hs
  | answer reply =>
    obtain ⟨s, e, k, r, hp, hr, _, rfl⟩ := answered_eq_some hs
    obtain ⟨p, w⟩ := d
    obtain rfl : p = .call s e k := hp
    obtain hended | ⟨t, manifest, hsigned, hsafe⟩ := h
    · cases hended
    · exact Or.inr ⟨t, manifest, hsigned, Script.Safe.answered hsafe (hplanned r hr)⟩
  | broadcast hash =>
    obtain ⟨w', _, rfl⟩ := Option.map_eq_some_iff.mp hs
    exact h
  | chain ledger =>
    simp only [step] at hs
    split at hs
    · obtain rfl := Option.some.inj hs
      exact h
    · cases hs
  | reload run =>
    obtain rfl := Option.some.inj hs
    exact Or.inl rfl

theorem RunsSigned.sentAsSigned {d : Deployment} (h : RunsSigned d) : SentAsSigned d := by
  intro run e k hp
  obtain ⟨p, w⟩ := d
  obtain rfl : p = .call run e k := hp
  obtain hended | ⟨t, manifest, ⟨a, ha, hplan, hmanifest⟩, hsafe⟩ := h
  · cases hended
  obtain ⟨rfl, hcall⟩ := Script.Safe.holds hsafe
  refine ⟨manifest, ⟨a, ha, ?_, hmanifest⟩, hcall⟩
  rw [hplan]
  exact deploymentPlanHash_terms run.plan

/-- **When what is executed is what was approved.** Approving: when the plan names the hash of
    the manifest, or is not approvable. Re-checking: when no plan that passes was edited.
    Running: when runs are started on unedited plans and every answer is as planned. -/
theorem approved_is_executed (m : DeploymentManifest) (plan : DeploymentPlan) :
    (∀ screen nowMs,
      (∀ approvedBy q, approve m plan screen approvedBy nowMs = .ok q →
        plan.manifestHash = manifestHash m) ↔
      (Approvable m plan screen nowMs → plan.manifestHash = manifestHash m)) ∧
    ((assertApprovedFor plan m = .ok () → Signed plan m) ↔
      (∀ a, plan.approval = some a → plan.readiness = .DEPLOYMENT_APPROVED → a.Covers m →
        a.planHash = deploymentPlanHash plan)) ∧
    ∀ deploymentId count d,
      Reaches (guarded step Faithful) (start (newRun deploymentId plan) count) d →
        SentAsSigned d := by
  refine ⟨fun screen nowMs => ?_, ?_, fun deploymentId count d h => ?_⟩
  · constructor
    · intro h hc
      exact h "" _ (approve_eq_ok.mpr ⟨hc, rfl⟩)
    · intro h approvedBy q hq
      exact h (approve_eq_ok.mp hq).1
  · constructor
    · intro h a ha hr hc
      obtain ⟨a', ha', hplan, _⟩ := h (assertApprovedFor_eq_ok.mpr ⟨hr, a, ha, hc⟩)
      obtain rfl := Option.some.inj (ha.symm.trans ha')
      exact hplan
    · intro h hok
      obtain ⟨hr, a, ha, hc⟩ := assertApprovedFor_eq_ok.mp hok
      exact ⟨a, ha, h a ha hr hc, hc.manifest⟩
  · have hsafe : RunsSigned d := h.invariant (fun _ _ _ => runsSigned_step) (Or.inl rfl)
    exact hsafe.sentAsSigned

def pinnedStep : DeploymentStep :=
  { consumerStep with calldataHash := some (calldataDigest "0x6000") }

def requestPinned : List Move := beginConsumer :: Answers.times { count := 5 } 4

theorem approved_is_executed_pinned :
    ∃ d, execute (guarded step Faithful) (consumerStart [pinnedStep]) requestPinned = some d ∧
      Requests d "deploy-consumer" ∧ SentAsSigned d := by
  have hrun : ((execute (guarded stepApproved AnswersAsPlanned) (consumerStart [pinnedStep])
      requestPinned).map fun d => decide (Requests d "deploy-consumer")) = some true := by
    decide +kernel
  obtain ⟨d, hd, hreq⟩ := Option.map_eq_some_iff.mp hrun
  have hmoves : ∀ a ∈ requestPinned, a.approvedFor (planOf [pinnedStep]).terms := by
    simp [requestPinned, beginConsumer, Answers.times, Move.approvedFor, planOf_approved,
      assertApprovedFor_terms]
  have hunedited : ∀ d a, KeptTerms (planOf [pinnedStep]).terms d → AnswersAsPlanned d a →
      Faithful d a := by
    intro d a ht hplanned
    refine ⟨?_, hplanned⟩
    cases a with
    | begin deps polls manifest maxSteps =>
      intro a ha
      have happroval : (planOf [pinnedStep]).approval = some a := by
        rw [← ha]
        exact (congrArg DeploymentPlan.approval ht.state :).symm
      rw [← deploymentPlanHash_terms, ht.state, deploymentPlanHash_terms]
      exact planOf_unedited _ a happroval
    | answer reply => trivial
    | broadcast hash => trivial
    | chain ledger => trivial
    | reload run => trivial
  have hstep := execute_approved hunedited (keptTerms_consumerStart _) hmoves hd
  have hreach : Reaches (guarded step Faithful)
      (start (newRun "deployment" (planOf [pinnedStep])) fun _ _ => 5) d := reaches_of_execute hstep
  exact ⟨d, hstep, by simpa using hreq, (approved_is_executed consumerManifest _).2.2 _ _ d hreach⟩

def otherHash (h : String) : String :=
  let zeros := "sha256:" ++ String.ofList (List.replicate 64 '0')
  if h = zeros then "sha256:" ++ String.ofList (List.replicate 64 '1') else zeros

theorem otherHash_ne (h : String) : otherHash h ≠ h := by
  unfold otherHash
  dsimp only
  split
  · rename_i heq
    rw [heq]
    decide
  · rename_i hne
    exact fun heq => hne heq.symm

def foreignPlan : DeploymentPlan :=
  { planId := "dp", manifestHash := otherHash (manifestHash consumerManifest),
    steps := [consumerStep], readiness := .PREFLIGHT_READY, approval := none }

def editedPlan : DeploymentPlan :=
  { planOf [consumerStep] with
    approval := some { Deploy.approvalOf consumerManifest (planOf [consumerStep]) "ops" 1 with
      planHash := otherHash (deploymentPlanHash (planOf [consumerStep])) } }

/-- **A plan of one manifest is approved with another**, and a plan that was not approved passes
    the check before a run. -/
theorem other_manifest_approved :
    (∃ q, approve consumerManifest foreignPlan
        (buildApprovalScreen consumerManifest foreignPlan [⟨11155111, "1", "2", true⟩] []) "ops" 1 =
          .ok q ∧ foreignPlan.manifestHash ≠ manifestHash consumerManifest) ∧
      assertApprovedFor editedPlan consumerManifest = .ok () ∧
      ∀ a ∈ editedPlan.approval, a.planHash ≠ deploymentPlanHash editedPlan := by
  refine ⟨⟨_, approve_eq_ok.mpr ⟨⟨rfl, ?_, ?_, ?_, ?_, rfl, rfl⟩, rfl⟩, otherHash_ne _⟩, ?_, ?_⟩
  · simp [buildApprovalScreen]
  · simp [foreignPlan, consumerStep, staleAt]
  · simp [buildApprovalScreen]
  · simp [foreignPlan, consumerStep, unknownSigner, consumerManifest, truthy]
  · have hcovers := approvalOf_covers consumerManifest (planOf [consumerStep]) "ops" 1
    exact assertApprovedFor_eq_ok.mpr
      ⟨rfl, _, rfl, hcovers.manifest, hcovers.pinned, hcovers.complete⟩
  · rintro a ha
    obtain rfl := Option.some.inj ha
    have hsame : deploymentPlanHash editedPlan = deploymentPlanHash (planOf [consumerStep]) :=
      deploymentPlanHash_approval _ _
    rw [hsame]
    exact otherHash_ne _

/-- The approval of the sample plan, once its step was sent. -/
theorem approval_outlasts_consumer : ∃ q : DeploymentPlan,
    assertApprovedFor q consumerManifest = .ok () ∧ q.steps.map (·.status) = [.SUBMITTED] := by
  have happroved : approve consumerManifest foreignPlan
      (buildApprovalScreen consumerManifest foreignPlan [] []) "ops" 1 = .ok _ :=
    approve_eq_ok.mpr ⟨⟨rfl, by simp [buildApprovalScreen],
      by simp [foreignPlan, consumerStep, staleAt], by simp [buildApprovalScreen],
      by simp [foreignPlan, consumerStep, unknownSigner, consumerManifest, truthy], rfl, rfl⟩, rfl⟩
  exact ⟨_, (approval_outlasts happroved [("deploy-consumer", .SUBMITTED)]).2.1, rfl⟩

end ContextLock.Orchestrator
