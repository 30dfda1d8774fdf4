/-
  Subject:   Steps whose effects all succeed.
-/
import ContextLock.Orchestrator.Approved

namespace ContextLock.Orchestrator

open Js Deploy Machine

/-! ## 1. Effects that succeed -/

/-- What surrounds a run: the readers, the manifest, the steps whose effect is there before the
    run, and a block that every receipt is of or before. -/
structure Surroundings where
  deps : Deps
  manifest : DeploymentManifest
  present : String → Bool
  mined : Nat

/-- Every call but the wait without an end. -/
def answerable : Effect → Prop
  | .waiting => False
  | _ => True

/-- The answers that are a success. Before a step is executed an observation finds what is
    there; from then on it finds the effect of the step. -/
def succeeds (w : Surroundings) (run : DeploymentRun) : (e : Effect) → Reply e → Prop
  | .nowMs, _ => True
  | .sleep _, _ => True
  | .waiting, _ => False
  | .getTransactionCount _ _ _, r => ∃ n, r = .ok n
  | .getTransactionReceipt _ _, r =>
    ∃ receipt, r = .ok (some receipt) ∧ receipt.status = .success ∧
      receipt.blockNumber ≤ w.mined
  | .getBlockNumber _, r =>
    ∃ head, r = .ok head ∧ w.mined + w.deps.confirmations.getD DEFAULT_CONFIRMATIONS ≤ head
  | .resolveCalldata step _, r =>
    ∃ prepared, r = .ok prepared ∧ prepared.recipient ≠ none ∧
      ∀ h ∈ truthy step.calldataHash, calldataDigest prepared.data = h
  | .sendTransaction _ _, r => ∃ hash, r = .ok hash ∧ toLowerCase hash ≠ ""
  | .observe step _ _, r =>
    ∃ seen, r = .ok seen ∧
      seen.satisfied = if run.state = .DEPLOYMENT_APPROVED then w.present step.id else true
  | .creCurrentArtifact, r =>
    ∃ current, r = .ok (some current) ∧ ∀ wf ∈ w.manifest.creWorkflows.head?,
      current.binaryHash = wf.binaryHash ∧ current.configHash = wf.configHash ∧
        current.workflowHash = wf.workflowHash ∧ current.sourceTreeHash = wf.sourceTreeHash
  | .creDeploy _ _ _ _, r => ∃ deployed, r = .ok deployed
  | .creLifecycle _ _, r => ∃ status, r = .ok status
  | .creAuthValid, r => r = .ok true
  | .imageBuild _, r => ∃ digest, r = .ok digest ∧ digest ≠ ""
  | .imageScan _, r => ∃ scan, r = .ok scan ∧ scan.1 = true
  | .imagePublish _, r => r = .ok ()
  | .imageCreateDisabled _ _, r => ∃ revision, r = .ok revision

instance : DecidablePred answerable := fun e => by
  unfold answerable
  split <;> infer_instance

section Decidable

variable {α : Type}

/-- A success with a value of a kind. -/
instance (r : Except DeployError α) (p : α → Prop) [DecidablePred p] :
    Decidable (∃ a, r = .ok a ∧ p a) :=
  match r with
  | .ok a => decidable_of_iff (p a) (by simp)
  | .error _ => isFalse (by simp)

instance (r : Except DeployError α) : Decidable (∃ a, r = .ok a) :=
  match r with
  | .ok a => isTrue ⟨a, rfl⟩
  | .error _ => isFalse (by simp)

instance (r : Except DeployError (Option α)) (p : α → Prop) [DecidablePred p] :
    Decidable (∃ a, r = .ok (some a) ∧ p a) :=
  match r with
  | .ok (some a) => decidable_of_iff (p a) (by simp)
  | .ok none => isFalse (by simp)
  | .error _ => isFalse (by simp)

instance [DecidableEq α] (r : Except DeployError α) (a : α) : Decidable (r = .ok a) :=
  match r with
  | .ok b => decidable_of_iff (b = a) (by simp)
  | .error _ => isFalse (by simp)

end Decidable

instance (w : Surroundings) (run : DeploymentRun) :
    (e : Effect) → (r : Reply e) → Decidable (succeeds w run e r)
  | .nowMs, _ | .sleep _, _ => instDecidableTrue
  | .waiting, _ => instDecidableFalse
  | .getTransactionCount _ _ _, r => inferInstanceAs (Decidable (∃ n, r = .ok n))
  | .getTransactionReceipt _ _, r =>
    inferInstanceAs (Decidable (∃ receipt, r = .ok (some receipt) ∧ receipt.status = .success ∧
      receipt.blockNumber ≤ w.mined))
  | .getBlockNumber _, r =>
    inferInstanceAs (Decidable (∃ head, r = .ok head ∧
      w.mined + w.deps.confirmations.getD DEFAULT_CONFIRMATIONS ≤ head))
  | .resolveCalldata step _, r =>
    inferInstanceAs (Decidable (∃ prepared, r = .ok prepared ∧ prepared.recipient ≠ none ∧
      ∀ h ∈ truthy step.calldataHash, calldataDigest prepared.data = h))
  | .sendTransaction _ _, r =>
    inferInstanceAs (Decidable (∃ hash, r = .ok hash ∧ toLowerCase hash ≠ ""))
  | .observe step _ _, r =>
    inferInstanceAs (Decidable (∃ seen, r = .ok seen ∧
      seen.satisfied = if run.state = .DEPLOYMENT_APPROVED then w.present step.id else true))
  | .creCurrentArtifact, r =>
    inferInstanceAs (Decidable (∃ current, r = .ok (some current) ∧
      ∀ wf ∈ w.manifest.creWorkflows.head?,
        current.binaryHash = wf.binaryHash ∧ current.configHash = wf.configHash ∧
          current.workflowHash = wf.workflowHash ∧ current.sourceTreeHash = wf.sourceTreeHash))
  | .creDeploy _ _ _ _, r => inferInstanceAs (Decidable (∃ deployed, r = .ok deployed))
  | .creLifecycle _ _, r => inferInstanceAs (Decidable (∃ status, r = .ok status))
  | .creAuthValid, r => inferInstanceAs (Decidable (r = .ok true))
  | .imageBuild _, r => inferInstanceAs (Decidable (∃ digest, r = .ok digest ∧ digest ≠ ""))
  | .imageScan _, r => inferInstanceAs (Decidable (∃ scan, r = .ok scan ∧ scan.1 = true))
  | .imagePublish _, r => inferInstanceAs (Decidable (r = .ok ()))
  | .imageCreateDisabled _ _, r => inferInstanceAs (Decidable (∃ revision, r = .ok revision))

def DeploymentRun.built (run : DeploymentRun) : Bool := (truthy run.runtimeImageDigest).isSome

def approvedBinary (plan : DeploymentPlan) (workflow : ManifestCreWorkflow) : Option String :=
  plan.approval.bind fun a =>
    truthy (a.artifactHashes.get? ("cre-binary:" ++ workflow.workflowName))

/-- What a step needs besides effects that succeed. -/
def Doable (w : Surroundings) (plan : DeploymentPlan) (built : Bool) (step : DeploymentStep) :
    Prop :=
  match step.type with
  | .DEPLOY_CONTRACT | .CONFIGURE_CONTRACT | .REGISTER_POLICY_DISABLED
  | .REGISTER_ENS_IDENTITY => (writeTarget w.deps step w.manifest).isOk = true
  | .DEPLOY_CRE_PRIVATE =>
    ∃ wf ∈ w.manifest.creWorkflows.head?, ∀ b ∈ approvedBinary plan wf, b = wf.binaryHash
  | .PAUSE_CRE => w.manifest.creWorkflows.head?.isSome
  | .BUILD_RUNTIME_IMAGE => w.manifest.runtimeImages.head?.isSome
  | .SCAN_RUNTIME_IMAGE | .PUBLISH_RUNTIME_IMAGE | .CREATE_RUNTIME_DISABLED =>
    w.manifest.runtimeImages.head?.isSome ∧ built
  | .ACTIVATE => False
  | _ => True

instance (w : Surroundings) (plan : DeploymentPlan) (built : Bool) (step : DeploymentStep) :
    Decidable (Doable w plan built step) := by
  unfold Doable
  split <;> infer_instance

/-- The run after a step: in its phase, with the step `VERIFIED`. -/
structure After (run : DeploymentRun) (step : DeploymentStep) (run' : DeploymentRun) : Prop where
  state : run'.state = run.state
  plan : run'.plan = run.plan.withStatus step.id .VERIFIED
  records : ∀ s, s ≠ step.id → run'.transactions.get? s = run.transactions.get? s
  built : run'.built = (run.built || step.type = .BUILD_RUNTIME_IMAGE)

theorem withStatus_withStatus (plan : DeploymentPlan) (stepId : String)
    (a b : DeploymentStepStatus) :
    (plan.withStatus stepId a).withStatus stepId b = plan.withStatus stepId b := by
  unfold DeploymentPlan.withStatus
  have hstep : ∀ s : DeploymentStep, (fun s : DeploymentStep =>
      if s.id = stepId then { s with status := b } else s)
        (if s.id = stepId then { s with status := a } else s) =
      if s.id = stepId then { s with status := b } else s := by
    intro s
    by_cases h : s.id = stepId <;> simp [h]
  simp only [List.map_map]
  exact congrArg (fun steps => ({ plan with steps := steps } : DeploymentPlan))
    (List.map_congr_left fun s _ => hstep s)

section Ends

variable {w : Surroundings} {α : Type}

/-- With every effect a success, the script comes to an end. -/
abbrev Ends (w : Surroundings) (Q : α → DeploymentRun → Prop)
    (T : DeployError → DeploymentRun → Prop) (p : Script DeploymentRun Effect Reply DeployError α) : Prop :=
  p.Ends answerable (succeeds w) Q T

/-! ## 2. Writing to the run -/

variable {Q : Unit → DeploymentRun → Prop} {T : DeployError → DeploymentRun → Prop}

variable {manifest : DeploymentManifest} {record : TransactionRecord} {run : DeploymentRun}
  {step : DeploymentStep}

theorem log_ends {stepId : Option String} {message : String}
    (h : ∀ es, Q () { run with events := es }) : Ends w Q T (log stepId message run) :=
  ⟨trivial, fun _ _ => h _⟩

theorem setCreated_apply (stepId : String) (address : Option String) (run : DeploymentRun) :
    ∃ created, setCreated stepId address run = .ok () { run with createdAddresses := created } := by
  unfold setCreated
  cases truthy address with
  | none => exact ⟨run.createdAddresses, rfl⟩
  | some a => exact ⟨_, rfl⟩

theorem moveTo_ends {target : DeploymentState}
    (hstay : run.state = target ∨ assertTransition run.state target = .ok () →
      ∀ es, Q () { run with state := target, events := es })
    (hfail : ∀ e, ¬ (run.state = target ∨ assertTransition run.state target = .ok ()) → T e run) :
    Ends w Q T (moveTo target run) := by
  unfold moveTo
  simp only [Act.bind_apply, Act.get_apply, Script.bind_ok]
  by_cases h : run.state = target
  · rw [if_pos h]
    have hq := hstay (Or.inl h) run.events
    rw [← h] at hq
    exact hq
  rw [if_neg h]
  simp only [Act.bind_apply]
  cases ha : assertTransition run.state target with
  | error e =>
    refine hfail e ?_
    simp [h, ha]
  | ok u => exact ⟨trivial, fun _ _ => hstay (Or.inr ha) _⟩

/-! ## 3. Observations -/

theorem executeObservation_ends (hstate : run.state ≠ .DEPLOYMENT_APPROVED)
    (htype : step.type ≠ .BUILD_RUNTIME_IMAGE) :
    Ends w (fun _ => After run step) (fun _ _ => False) (executeObservation step manifest run) := by
  refine ⟨trivial, ?_⟩
  rintro _ ⟨seen, rfl, hseen⟩
  rw [if_neg hstate] at hseen
  show Ends w _ _ ((if ¬ seen.satisfied then _ else _ : Orchestrated Unit) run)
  rw [if_neg (by simp [hseen])]
  obtain ⟨created, hcreated⟩ := setCreated_apply step.id seen.createdAddress run
  simp only [Act.bind_apply, hcreated, Script.bind_ok]
  refine log_ends fun es => ⟨rfl, rfl, fun _ _ => rfl, ?_⟩
  simp [DeploymentRun.built, htype]

/-! ## 4. Writes -/

theorem reconcile_ends {chainId now : Nat} (hhash : record.hash ≠ none) :
    Ends w (fun q run' => run' = run ∧ q.state = .MINED_SUCCESS ∧
        w.deps.confirmations.getD DEFAULT_CONFIRMATIONS ≤ q.confirmations)
      (fun _ _ => False) (reconcile record chainId now run) := by
  obtain ⟨hash, hh⟩ := Option.ne_none_iff_exists'.mp hhash
  unfold reconcile
  simp only [hh]
  refine ⟨trivial, ?_⟩
  rintro _ ⟨receipt, rfl, hsuccess, hblock⟩
  refine ⟨trivial, ?_⟩
  rintro _ ⟨head, rfl, hhead⟩
  refine ⟨rfl, by simp [settledBy, hsuccess], ?_⟩
  have hle : receipt.blockNumber ≤ head := by omega
  simp only [settledBy, if_pos hle]
  omega

theorem waitForFinality_ends {chainId : Nat} {opts : Waiting} {polls : Nat} (hpolls : 0 < polls)
    (hhash : record.hash ≠ none) :
    Ends w (fun q run' => run' = run ∧ q.state = .MINED_SUCCESS) (fun _ _ => False)
      (waitForFinality record chainId (w.deps.confirmations.getD DEFAULT_CONFIRMATIONS) opts polls
        run) := by
  obtain ⟨n, rfl⟩ : ∃ n, polls = n + 1 := ⟨polls - 1, by omega⟩
  refine ⟨trivial, fun start _ => ⟨trivial, fun _ _ => ⟨trivial, fun now _ => ?_⟩⟩⟩
  change Ends w _ _ (((reconcile record chainId now run).bind _).bind _)
  refine Script.Ends.bind (Script.Ends.bind ((reconcile_ends hhash).mono ?_ fun _ _ h => h))
  rintro q run' ⟨rfl, hmined, hdeep⟩
  have hsettled : q.settled = true := by simp [TransactionRecord.settled, hmined]
  simp only [hsettled, if_true]
  show Ends w _ _ (pollForFinality chainId _ opts _ (n + 1) q run')
  unfold pollForFinality
  rw [if_neg (by omega)]
  exact ⟨rfl, hmined⟩

theorem afterSettled_ends {settled : TransactionRecord} (hmined : settled.state = .MINED_SUCCESS)
    (hstate : run.state ≠ .DEPLOYMENT_APPROVED) (htype : step.type ≠ .BUILD_RUNTIME_IMAGE) :
    Ends w (fun _ => After run step) (fun _ _ => False)
      (afterSettled step manifest settled run) := by
  have hok : assertMinedSuccessfully settled = .ok () := by
    simp [assertMinedSuccessfully, hmined]
  unfold afterSettled
  rw [hok]
  obtain ⟨created, hcreated⟩ := setCreated_apply step.id settled.contractAddress run
  simp only [Act.bind_apply, hcreated, Script.bind_ok]
  refine ⟨trivial, ?_⟩
  rintro _ ⟨seen, rfl, hseen⟩
  rw [if_neg hstate] at hseen
  show Ends w _ _ ((if ¬ seen.satisfied then _ else _ : Orchestrated Unit) _)
  rw [if_neg (by simp [hseen])]
  refine log_ends fun es => ⟨rfl, ?_, fun _ _ => rfl, ?_⟩
  · exact withStatus_withStatus run.plan step.id .CONFIRMED .VERIFIED
  · simp [DeploymentRun.built, htype]

/-- What a run of writes may have changed before: the record and the status of the step. -/
theorem After.of_begun {run₁ run' : DeploymentRun} (h : After run₁ step run')
    (status : DeploymentStepStatus) (hstate : run₁.state = run.state)
    (hplan : run₁.plan = run.plan.withStatus step.id status)
    (hrecords : ∀ s, s ≠ step.id → run₁.transactions.get? s = run.transactions.get? s)
    (hbuilt : run₁.built = run.built) : After run step run' where
  state := h.state.trans hstate
  plan := by rw [h.plan, hplan, withStatus_withStatus]
  records s hs := (h.records s hs).trans (hrecords s hs)
  built := by rw [h.built, hbuilt]

theorem settleWrite_ends {polls : Nat} {chainId : Nat} (hpolls : 0 < polls)
    (hhash : record.hash ≠ none) (hstate : run.state ≠ .DEPLOYMENT_APPROVED)
    (htype : step.type ≠ .BUILD_RUNTIME_IMAGE) :
    Ends w (fun _ run' => After { run with plan := run.plan.withStatus step.id .CONFIRMED } step run')
      (fun _ _ => False) (settleWrite w.deps polls step manifest chainId record run) := by
  refine Script.Ends.bind ((waitForFinality_ends hpolls hhash).mono ?_ fun _ _ h => h)
  rintro q run' ⟨rfl, hmined⟩
  let recorded : DeploymentRun := { run' with transactions := run'.transactions.set step.id q }
  have hrecorded : recorded.state ≠ .DEPLOYMENT_APPROVED := hstate
  refine (afterSettled_ends hmined hrecorded htype).mono ?_ fun _ _ h => h
  rintro _ run'' h
  refine ⟨h.state, ?_, fun s hs => ?_, h.built⟩
  · rw [h.plan]
    exact (withStatus_withStatus _ _ _ _).symm
  · rw [h.records s hs]
    exact Map.get?_set_ne _ _ hs

theorem checkPrepared_of_succeeds {prepared : Prepared} (hrecipient : prepared.recipient ≠ none)
    (hpinned : ∀ h ∈ truthy step.calldataHash, calldataDigest prepared.data = h) :
    checkPrepared step prepared = .ok () := by
  have hfilter : (truthy step.calldataHash).filter (calldataDigest prepared.data ≠ ·) = none := by
    rw [Option.filter_eq_none_iff]
    intro h hh
    simp [hpinned h hh]
  unfold checkPrepared
  rw [hfilter]
  simp [hrecipient]

theorem executeWrite_ends {polls : Nat} (hpolls : 0 < polls)
    (hstate : run.state ≠ .DEPLOYMENT_APPROVED) (htype : step.type ≠ .BUILD_RUNTIME_IMAGE) :
    Ends w (fun _ run' => (writeTarget w.deps step w.manifest).isOk = true ∧ After run step run')
      (fun _ _ => ¬ (writeTarget w.deps step w.manifest).isOk = true)
      (executeWrite w.deps polls step w.manifest run) := by
  unfold executeWrite
  cases htarget : writeTarget w.deps step w.manifest with
  | error e => exact Bool.false_ne_true
  | ok target =>
  obtain ⟨chainId, signerId, sender⟩ := target
  refine ⟨trivial, ?_⟩
  rintro _ ⟨nonce, rfl⟩
  refine ⟨trivial, ?_⟩
  rintro _ ⟨prepared, rfl, hrecipient, hpinned⟩
  change Ends w _ _ ((Act.lift (checkPrepared step prepared) >>= _ : Orchestrated Unit) run)
  rw [checkPrepared_of_succeeds hrecipient hpinned]
  refine ⟨trivial, ?_⟩
  rintro _ ⟨hash, rfl, hhash⟩
  refine ⟨trivial, fun now _ => ?_⟩
  let begun : DeploymentRun := { run with plan := run.plan.withStatus step.id .SUBMITTED }
  let record := recordSendOutcome ((run.transactions.get? step.id).getD
    (newTransactionRecord step.id chainId sender nonce (step.cost.map (·.totalNativeWei))))
    (.ok hash) false now
  have hrecord : record.hash ≠ none := by
    simp [record, recordSendOutcome, TransactionRecord.hash, truthy, hhash]
  let sent : DeploymentRun := { begun with transactions := begun.transactions.set step.id record }
  have hsent : sent.state ≠ .DEPLOYMENT_APPROVED := hstate
  refine (settleWrite_ends hpolls hrecord hsent htype).mono ?_ fun _ _ h => h.elim
  intro _ run' h
  refine ⟨rfl, h.of_begun .CONFIRMED rfl ?_ (fun s hs => ?_) rfl⟩
  · exact withStatus_withStatus run.plan step.id .SUBMITTED .CONFIRMED
  · exact Map.get?_set_ne _ _ hs

/-! ## 5. The workflow and the image -/

theorem checkCreArtifact_eq_ok {wf : ManifestCreWorkflow} {current : CreArtifact}
    (hbinary : current.binaryHash = wf.binaryHash) (hconfig : current.configHash = wf.configHash)
    (hworkflow : current.workflowHash = wf.workflowHash)
    (hsource : current.sourceTreeHash = wf.sourceTreeHash) :
    checkCreArtifact run step wf current = .ok () ↔
      ∀ b ∈ approvedBinary run.plan wf, b = wf.binaryHash := by
  have hdrift : artifactDrift { current with
      binaryHash := wf.binaryHash, configHash := wf.configHash,
      workflowHash := wf.workflowHash, sourceTreeHash := wf.sourceTreeHash } current = [] := by
    simp [artifactDrift, hbinary, hconfig, hworkflow, hsource]
  unfold checkCreArtifact
  dsimp only
  rw [← approvedBinary]
  cases ha : approvedBinary run.plan wf with
  | none => simp [assertNoArtifactDrift, hdrift]
  | some b =>
    by_cases hb : b = wf.binaryHash
    · simp [Option.filter, hb, hbinary, assertNoArtifactDrift, hdrift]
    · simp [Option.filter, hb, hbinary]

theorem executeCreDeploy_ends (htype : step.type ≠ .BUILD_RUNTIME_IMAGE) :
    Ends w (fun _ run' => (∃ wf ∈ w.manifest.creWorkflows.head?,
        ∀ b ∈ approvedBinary run.plan wf, b = wf.binaryHash) ∧ After run step run')
      (fun _ _ => ¬ ∃ wf ∈ w.manifest.creWorkflows.head?,
        ∀ b ∈ approvedBinary run.plan wf, b = wf.binaryHash)
      (executeCreDeploy step w.manifest run) := by
  unfold executeCreDeploy
  refine ⟨trivial, ?_⟩
  rintro _ rfl
  cases hwf : w.manifest.creWorkflows.head? with
  | none => exact (by simp : ¬ ∃ wf ∈ (none : Option ManifestCreWorkflow), _)
  | some wf =>
  refine ⟨trivial, ?_⟩
  rintro _ ⟨current, rfl, hmatch⟩
  obtain ⟨hbinary, hconfig, hworkflow, hsource⟩ := hmatch wf hwf
  have hcheck : checkCreArtifact run step wf current = .ok () ↔ _ :=
    checkCreArtifact_eq_ok hbinary hconfig hworkflow hsource
  change Ends w _ _ ((Act.lift (checkCreArtifact run step wf current) >>= _ :
    Orchestrated Unit) run)
  cases hc : checkCreArtifact run step wf current with
  | error e =>
    have hnot : ¬ ∀ b ∈ approvedBinary run.plan wf, b = wf.binaryHash := by
      rw [← hcheck, hc]
      exact nofun
    exact (by simpa using hnot :
      ¬ ∃ wf' ∈ some wf, ∀ b ∈ approvedBinary run.plan wf', b = wf'.binaryHash)
  | ok u =>
  have happroved := hcheck.mp hc
  refine ⟨trivial, ?_⟩
  rintro _ ⟨deployed, rfl⟩
  refine ⟨trivial, fun now _ => ⟨⟨wf, rfl, happroved⟩, rfl, rfl, fun _ _ => rfl, ?_⟩⟩
  simp [DeploymentRun.built, htype]

theorem confirmPause_ends {workflow : String} (htype : step.type ≠ .BUILD_RUNTIME_IMAGE) :
    Ends w (fun _ => After run step) (fun _ _ => False) (confirmPause step workflow run) := by
  refine ⟨trivial, ?_⟩
  rintro _ ⟨status, rfl⟩
  refine ⟨trivial, fun now _ => ⟨rfl, rfl, fun _ _ => rfl, ?_⟩⟩
  simp [DeploymentRun.built, htype]

theorem executeCrePause_ends (htype : step.type ≠ .BUILD_RUNTIME_IMAGE) :
    Ends w (fun _ run' => w.manifest.creWorkflows.head?.isSome ∧ After run step run')
      (fun _ _ => ¬ w.manifest.creWorkflows.head?.isSome)
      (executeCrePause step w.manifest run) := by
  unfold executeCrePause
  cases hwf : w.manifest.creWorkflows.head? with
  | none => exact Bool.false_ne_true
  | some wf =>
  refine ⟨trivial, ?_⟩
  rintro _ ⟨status, rfl⟩
  show Ends w _ _ ((if status.toUpper ≠ "PAUSED" then _ else _ : Orchestrated Unit) run)
  have hconfirm : Ends w (fun _ run' => true = true ∧ After run step run')
      (fun _ _ => ¬ (some wf).isSome) (confirmPause step wf.workflowName run) :=
    (confirmPause_ends htype).mono (fun _ _ h => ⟨rfl, h⟩) fun _ _ h => h.elim
  split
  · refine ⟨trivial, ?_⟩
    rintro _ ⟨_, rfl⟩
    exact hconfirm
  · exact hconfirm

def needsImage : DeploymentStepType → Bool
  | .SCAN_RUNTIME_IMAGE | .PUBLISH_RUNTIME_IMAGE | .CREATE_RUNTIME_DISABLED => true
  | _ => false

theorem builtDigest_of_built (step : DeploymentStep) (missing : String) (h : run.built = true) :
    ∃ digest, builtDigest run step missing = .ok digest := by
  obtain ⟨digest, hd⟩ := Option.isSome_iff_exists.mp h
  exact ⟨digest, by simp [builtDigest, hd]⟩

theorem builtDigest_of_unbuilt (step : DeploymentStep) (missing : String) (h : run.built = false) :
    ∃ e, builtDigest run step missing = .error e := by
  have hd : truthy run.runtimeImageDigest = none := Option.not_isSome_iff_eq_none.mp (by
    simpa [DeploymentRun.built] using h)
  exact ⟨stepError STEP_FAILED missing step.id, by simp [builtDigest, hd]⟩

def HasImage (run : DeploymentRun) (step : DeploymentStep) : Prop :=
  needsImage step.type = true → run.built = true

/-- The effect of an image step leaves everything but the image and the log alone. -/
structure AfterImage (run : DeploymentRun) (step : DeploymentStep) (run' : DeploymentRun) :
    Prop where
  had : HasImage run step
  state : run'.state = run.state
  plan : run'.plan = run.plan
  records : run'.transactions = run.transactions
  built : run'.built = (run.built || step.type = .BUILD_RUNTIME_IMAGE)

/-- A step that works on an image built before. -/
theorem needsImage_ends (hn : needsImage step.type = true) (missing : String)
    {f : String → Orchestrated Unit}
    (hf : ∀ digest, Ends w (fun _ run' => run'.state = run.state ∧ run'.plan = run.plan ∧
      run'.transactions = run.transactions ∧ run'.built = run.built) (fun _ _ => False)
      (f digest run)) :
    Ends w (fun _ => AfterImage run step) (fun _ _ => ¬ HasImage run step)
      ((Act.lift (builtDigest run step missing) >>= f) run) := by
  have hne : step.type ≠ .BUILD_RUNTIME_IMAGE := by
    intro he
    rw [he] at hn
    cases hn
  cases hb : run.built with
  | false =>
    obtain ⟨e, he⟩ := builtDigest_of_unbuilt step missing hb
    rw [he]
    exact fun h => Bool.false_ne_true (hb ▸ h hn)
  | true =>
    obtain ⟨digest, hd⟩ := builtDigest_of_built step missing hb
    rw [hd]
    refine (hf digest).mono ?_ fun _ _ h => h.elim
    rintro _ run' ⟨hs, hp, ht, hb'⟩
    exact ⟨fun _ => hb, hs, hp, ht, by simp [hb', hne]⟩

theorem imageEffect_ends {image : ManifestRuntimeImage}
    (htype : step.type = .BUILD_RUNTIME_IMAGE ∨ needsImage step.type = true) :
    Ends w (fun _ => AfterImage run step) (fun _ _ => ¬ HasImage run step)
      (imageEffect step image run) := by
  unfold imageEffect
  obtain hb | hn := htype
  · have hhas : HasImage run step := by
      intro h
      rw [hb] at h
      cases h
    simp only [hb]
    refine ⟨trivial, ?_⟩
    rintro _ ⟨digest, rfl, hdigest⟩
    refine ⟨trivial, fun now _ => ⟨hhas, rfl, rfl, rfl, ?_⟩⟩
    simp [DeploymentRun.built, truthy, hdigest, hb]
  · have hn' := hn
    cases ht : step.type <;> rw [ht] at hn' <;> try cases hn'
    · refine needsImage_ends hn _ ?_
      intro digest
      refine ⟨trivial, ?_⟩
      rintro _ ⟨⟨_, detail⟩, rfl, rfl⟩
      exact ⟨trivial, fun now _ => ⟨rfl, rfl, rfl, rfl⟩⟩
    · refine needsImage_ends hn _ ?_
      intro digest
      refine ⟨trivial, ?_⟩
      rintro _ rfl
      exact ⟨trivial, fun now _ => ⟨rfl, rfl, rfl, rfl⟩⟩
    · refine needsImage_ends hn _ ?_
      intro digest
      refine ⟨trivial, ?_⟩
      rintro _ ⟨revision, rfl⟩
      exact ⟨trivial, fun now _ => ⟨rfl, rfl, rfl, rfl⟩⟩

theorem executeImageStep_ends
    (htype : step.type = .BUILD_RUNTIME_IMAGE ∨ needsImage step.type = true) :
    Ends w (fun _ run' => (w.manifest.runtimeImages.head?.isSome ∧ HasImage run step) ∧
        After run step run')
      (fun _ _ => ¬ (w.manifest.runtimeImages.head?.isSome ∧ HasImage run step))
      (executeImageStep step w.manifest run) := by
  unfold executeImageStep
  cases himage : w.manifest.runtimeImages.head? with
  | none => exact fun h => Bool.false_ne_true h.1
  | some image =>
    refine Script.Ends.bind ((imageEffect_ends htype).mono ?_ fun _ _ h hc => h hc.2)
    intro _ run' h
    refine ⟨⟨rfl, h.had⟩, h.state, ?_, fun _ _ => ?_, h.built⟩
    · exact congrArg (fun p => DeploymentPlan.withStatus p step.id .VERIFIED) h.plan
    · simp only [h.records]

/-! ## 6. Steps -/

/-- **The handler of a step**, in its phase. -/
theorem handler_ends {polls : Nat} (hpolls : 0 < polls) (hstate : run.state ≠ .DEPLOYMENT_APPROVED)
    :
    Ends w (fun _ run' => Doable w run.plan run.built step ∧ After run step run')
      (fun _ _ => ¬ Doable w run.plan run.built step)
      (handler w.deps polls step w.manifest run) := by
  have hobserve : step.type ≠ .BUILD_RUNTIME_IMAGE → Doable w run.plan run.built step →
      Ends w (fun _ run' => Doable w run.plan run.built step ∧ After run step run')
        (fun _ _ => ¬ Doable w run.plan run.built step)
        (executeObservation step w.manifest run) := fun htype hdo =>
    (executeObservation_ends hstate htype).mono (fun _ _ h => ⟨hdo, h⟩) fun _ _ h => h.elim
  cases ht : step.type <;> simp only [handler, ht]
  case VERIFY_CHAIN | VERIFY_CORE | CHECK_CRE_ACCESS | BUILD_CRE_WASM | VERIFY_CRE_HASH
      | POST_DEPLOY_VERIFY =>
    exact hobserve (by rw [ht]; decide) (by simp only [Doable, ht])
  case DEPLOY_CONTRACT | CONFIGURE_CONTRACT | REGISTER_POLICY_DISABLED | REGISTER_ENS_IDENTITY =>
    simp only [Doable, ht]
    exact executeWrite_ends hpolls hstate (by rw [ht]; decide)
  case DEPLOY_CRE_PRIVATE =>
    simp only [Doable, ht]
    exact executeCreDeploy_ends (by rw [ht]; decide)
  case PAUSE_CRE =>
    simp only [Doable, ht]
    exact executeCrePause_ends (by rw [ht]; decide)
  case BUILD_RUNTIME_IMAGE =>
    have h : Ends w _ _ (executeImageStep step w.manifest run) :=
      executeImageStep_ends (Or.inl ht)
    simp only [HasImage, ht, needsImage, Bool.false_eq_true, false_implies, and_true] at h
    simp only [Doable, ht]
    exact h
  case SCAN_RUNTIME_IMAGE | PUBLISH_RUNTIME_IMAGE | CREATE_RUNTIME_DISABLED =>
    have h : Ends w _ _ (executeImageStep step w.manifest run) :=
      executeImageStep_ends (Or.inr (by rw [ht]; rfl))
    simp only [HasImage, ht, needsImage, true_implies] at h
    simp only [Doable, ht]
    exact h
  case ACTIVATE =>
    show ¬ Doable w run.plan run.built step
    simp [Doable, ht]

end Ends

end ContextLock.Orchestrator
