/-
  Subject:   The deployment orchestrator: resuming a run and executing its steps.

  A run is the state every action keeps; an error leaves it as it was when thrown, as the
  object of the source is left.
-/
import ContextLock.Orchestrator.Machine
import ContextLock.Orchestrator.Receipts

namespace ContextLock.Orchestrator

open Js Deploy Machine

/-! ## 1. Runs -/

/-- An entry of the log of a run. -/
structure RunEvent where
  atMs : Nat
  stepId : Option String
  message : String

structure DeploymentRun where
  deploymentId : String
  state : DeploymentState
  plan : DeploymentPlan
  transactions : Map TransactionRecord
  createdAddresses : Map String
  creWorkflowId : Option String
  creStatus : Option String
  runtimeImageDigest : Option String
  events : List RunEvent

def newRun (deploymentId : String) (plan : DeploymentPlan) : DeploymentRun :=
  { deploymentId, state := .DEPLOYMENT_APPROVED, plan, transactions := Map.empty,
    createdAddresses := Map.empty, creWorkflowId := none, creStatus := none,
    runtimeImageDigest := none, events := [] }

/-- What the orchestrator is constructed with, the calls aside: the chains there is a reader
    for, and how long and how deep to wait for a receipt. -/
structure Deps where
  readers : List Nat
  receiptTimeoutMs : Option Nat
  confirmations : Option Nat

/-- The waiting times of the source where `deps` gives none. -/
def Deps.waiting (deps : Deps) : Waiting :=
  { timeoutMs := deps.receiptTimeoutMs.getD 180000, intervalMs := 3000 }

abbrev Orchestrated (α : Type) := Asks DeploymentRun α

/-- `OrchestratorError`. -/
def stepError (reason detail stepId : String) : DeployError :=
  .orchestrator reason detail (some stepId)

def STEP_FAILED : String := "DEPLOY-STEP-FAILED"

/-! ## 2. Writing to the run -/

def log (stepId : Option String) (message : String) : Orchestrated Unit := do
  let atMs ← nowMs
  Act.update fun run => { run with events := run.events ++ [⟨atMs, stepId, message⟩] }

def moveTo (target : DeploymentState) : Orchestrated Unit := do
  let run ← get
  if run.state = target then pure ()
  else do
    Act.lift (assertTransition run.state target)
    log none (run.state.text ++ " -> " ++ target.text)
    Act.update fun run => { run with state := target }

def setStatus (stepId : String) (status : DeploymentStepStatus) : Orchestrated Unit :=
  Act.update fun run => { run with plan := run.plan.withStatus stepId status }

/-- `run.transactions.set(stepId, record)`. -/
def setRecord (stepId : String) (record : TransactionRecord) : Orchestrated Unit :=
  Act.update fun run => { run with transactions := run.transactions.set stepId record }

/-- `run.createdAddresses.set(stepId, address)`, where there is an address. -/
def setCreated (stepId : String) (address : Option String) : Orchestrated Unit :=
  match truthy address with
  | some a =>
    Act.update fun run => { run with createdAddresses := run.createdAddresses.set stepId a }
  | none => pure ()

/-- `deps.observe`, with the addresses created so far. -/
def observe (step : DeploymentStep) (manifest : DeploymentManifest) : Orchestrated Observation := do
  let run ← get
  Act.lift (← Act.call (.observe step manifest run.createdAddresses))

/-! ## 3. Resuming -/

/-- A record of unknown fate is reconciled, where its chain has a reader. -/
def reconcileUnknown (deps : Deps) (stepId : String) : Orchestrated Unit := do
  match (← get).transactions.get? stepId with
  | none => pure ()
  | some record =>
    if record.state ≠ .UNKNOWN_SUBMISSION_STATE then pure ()
    else if record.chainId ∉ deps.readers then pure ()
    else do
      let resolved ← reconcile record record.chainId (← nowMs)
      setRecord stepId resolved
      log (some stepId) ("reconciled unknown submission: " ++ resolved.state.text
        ++ (match truthy resolved.revertDetail with
            | some d => " — " ++ d
            | none => ""))
      if resolved.state = .MINED_SUCCESS then setCreated stepId resolved.contractAddress
      else pure ()

/-- A step not done yet is looked at, unless its transaction is of unknown fate. -/
def observeStep (manifest : DeploymentManifest) (step : DeploymentStep) : Orchestrated Unit := do
  let state := ((← get).transactions.get? step.id).map (·.state)
  if step.done then pure ()
  else if state = some .UNKNOWN_SUBMISSION_STATE then pure ()
  else do
    let seen ← observe step manifest
    if seen.satisfied then do
      setStatus step.id
        (if state = some .MINED_SUCCESS then .VERIFIED else .SKIPPED_ALREADY_SATISFIED)
      setCreated step.id seen.createdAddress
      log (some step.id) ("already satisfied: " ++ seen.evidence)
    else pure ()

/-- `resume` past the check of the approval: every record, then every step. -/
def resumeApproved (deps : Deps) (manifest : DeploymentManifest) : Orchestrated Unit := do
  (← get).transactions.keys.forM (reconcileUnknown deps)
  (← get).plan.steps.forM (observeStep manifest)

def resume (deps : Deps) (manifest : DeploymentManifest) : Orchestrated Unit := do
  let run ← get
  if run.state ∉ RESUMABLE_STATES then
    Act.fail (.machine "DEPLOY-NOT-RESUMABLE"
      ("deployment " ++ run.deploymentId ++ " is " ++ run.state.text))
  else do
    Act.lift (assertApprovedFor run.plan manifest)
    resumeApproved deps manifest

/-- `nextStep`: the first step not done and not failed whose dependencies are done. -/
def nextStep (run : DeploymentRun) : Option DeploymentStep :=
  let done := (run.plan.steps.filter (·.done)).map (·.id)
  run.plan.steps.find? fun s =>
    s.id ∉ done ∧ s.status ≠ .FAILED ∧ s.dependencyIds.all (· ∈ done)

/-! ## 4. Observations -/

def executeObservation (step : DeploymentStep) (manifest : DeploymentManifest) :
    Orchestrated Unit := do
  let seen ← observe step manifest
  if ¬ seen.satisfied then do
    setStatus step.id .FAILED
    Act.fail (stepError STEP_FAILED seen.evidence step.id)
  else do
    setCreated step.id seen.createdAddress
    setStatus step.id .VERIFIED
    log (some step.id) seen.evidence

/-! ## 5. Writes -/

/-- The checks of a write before anything is read: its chain, the signer and the address it is
    sent from. -/
def writeTarget (deps : Deps) (step : DeploymentStep) (manifest : DeploymentManifest) :
    Except DeployError (Nat × String × String) :=
  match step.chainId with
  | none => .error (stepError STEP_FAILED "a write step must name a chain" step.id)
  | some chainId =>
    match assertWriteAllowed manifest.environment chainId with
    | .error e => .error (stepError STEP_FAILED e.message step.id)
    | .ok () =>
      if chainId ∉ deps.readers then
        .error (stepError STEP_FAILED ("no reader for chain " ++ toString chainId) step.id)
      else
        match (manifest.requiredSigners.find? (some ·.signerId = step.requiredSigner)).bind
            fun s => (truthy s.address).map fun a => (s.signerId, a) with
        | none =>
          .error (stepError STEP_FAILED ("step names signer \""
            ++ step.requiredSigner.getD "null" ++ "\" which has no address") step.id)
        | some (signerId, address) => .ok (chainId, signerId, address)

def calldataDigest (data : String) : String := "sha256:" ++ sha256Hex data

/-- The checks on what the executor supplies: the pinned hash, where there is one, and a
    target unless a contract is created. -/
def checkPrepared (step : DeploymentStep) (prepared : Prepared) : Except DeployError Unit :=
  match (truthy step.calldataHash).filter (calldataDigest prepared.data ≠ ·) with
  | some approved =>
    .error (stepError "DEPLOYMENT_ARTIFACT_DRIFT" ("the calldata for \"" ++ step.id
      ++ "\" hashes to " ++ calldataDigest prepared.data ++ ", but " ++ approved
      ++ " was approved") step.id)
  | none =>
    if step.type ≠ .DEPLOY_CONTRACT ∧ prepared.recipient = none then
      .error (stepError STEP_FAILED "a non-creation write must name a target" step.id)
    else .ok ()

/-- `BigInt(text)` of decimal digits. -/
def bigInt (text : String) : Nat := text.toList.foldl (fun n c => 10 * n + (c.toNat - 48)) 0

def sendRequest (step : DeploymentStep) (prepared : Prepared) (chainId : Nat) (sender : String)
    (nonce : Nat) : SendRequest :=
  { chainId, sender,
    recipient := if step.type = .DEPLOY_CONTRACT then none else prepared.recipient,
    data := prepared.data, value := prepared.value, nonce,
    gas := bigInt ((step.cost.map (·.estimatedGas)).getD "0") }

/-- The end of a write that the user refused, or whose fate is unknown. -/
def sendStopped (step : DeploymentStep) (signerId : String) (rejected : Bool) :
    Orchestrated Unit := do
  if rejected then do
    setStatus step.id .READY
    moveTo .DEPLOYMENT_PAUSED_SIGNER
    Act.fail (stepError "DEPLOY-SIGNER-REJECTED" (signerId ++ " declined to sign; nothing was"
      ++ " submitted and the deployment can be resumed") step.id)
  else do
    setStatus step.id .UNKNOWN_SUBMISSION_STATE
    moveTo .DEPLOYMENT_PARTIAL
    Act.fail (stepError "DEPLOY-UNKNOWN-TRANSACTION-STATE" ("the transaction for \"" ++ step.id
      ++ "\" was sent and its outcome is unknown. It must be reconciled against the chain before"
      ++ " any retry.") step.id)

def sendFailed (step : DeploymentStep) (signerId : String) (record : TransactionRecord)
    (e : DeployError) : Orchestrated Unit := do
  let rejected := readsAsRejection e
  setRecord step.id (recordSendOutcome record (.error e) rejected (← nowMs))
  sendStopped step signerId rejected

def writeFailed (step : DeploymentStep) (detail : String) : Orchestrated Unit := do
  setStatus step.id .FAILED
  moveTo .DEPLOYMENT_PARTIAL
  Act.fail (stepError STEP_FAILED detail step.id)

/-- After the wait: a transaction that did not succeed ends the write, and the effect of one
    that did is looked at. -/
def afterSettled (step : DeploymentStep) (manifest : DeploymentManifest)
    (settled : TransactionRecord) : Orchestrated Unit :=
  match assertMinedSuccessfully settled with
  | .error e => writeFailed step e.message
  | .ok () => do
    setCreated step.id settled.contractAddress
    setStatus step.id .CONFIRMED
    let seen ← observe step manifest
    if ¬ seen.satisfied then
      writeFailed step ("the transaction for \"" ++ step.id
        ++ "\" succeeded but the intended state is not present: " ++ seen.evidence)
    else do
      setStatus step.id .VERIFIED
      log (some step.id) ("confirmed in block " ++ settled.blockNumber.getD "null" ++ ", gas "
        ++ settled.gasUsed.getD "null" ++ ", verified: " ++ seen.evidence)

/-- After a send: wait for the transaction to be final, record it, and go on from there. -/
def settleWrite (deps : Deps) (polls : Nat) (step : DeploymentStep)
    (manifest : DeploymentManifest) (chainId : Nat) (record : TransactionRecord) :
    Orchestrated Unit := do
  let settled ← waitForFinality record chainId (deps.confirmations.getD DEFAULT_CONFIRMATIONS)
    deps.waiting polls
  setRecord step.id settled
  afterSettled step manifest settled

def resolveCalldata (step : DeploymentStep) (manifest : DeploymentManifest) :
    Orchestrated Prepared := do
  Act.lift (← Act.call (.resolveCalldata step manifest))

def sendTransaction (step : DeploymentStep) (req : SendRequest) : Orchestrated String := do
  Act.lift (← Act.call (.sendTransaction step req))

def executeWrite (deps : Deps) (polls : Nat) (step : DeploymentStep)
    (manifest : DeploymentManifest) : Orchestrated Unit := do
  let (chainId, signerId, sender) ← Act.lift (writeTarget deps step manifest)
  let nonce ← getTransactionCount chainId sender step.id
  let run ← get
  -- a record from an earlier attempt is reused as it stands, its nonce and hash included
  let record := (run.transactions.get? step.id).getD
    (newTransactionRecord step.id chainId sender nonce (step.cost.map (·.totalNativeWei)))
  let prepared ← resolveCalldata step manifest
  Act.lift (checkPrepared step prepared)
  setStatus step.id .SUBMITTED
  match ← Act.attempt (sendTransaction step (sendRequest step prepared chainId sender nonce)) with
  | .error e => sendFailed step signerId record e
  | .ok hash => do
    let sent := recordSendOutcome record (.ok hash) false (← nowMs)
    setRecord step.id sent
    settleWrite deps polls step manifest chainId sent

/-! ## 6. CRE steps -/

/-- `artifactDrift`: the fields in which two artifacts differ. -/
def artifactDrift (approved current : CreArtifact) : List String :=
  [("WASM sha256", approved.wasmSha256, current.wasmSha256),
   ("CRE binary hash", approved.binaryHash, current.binaryHash),
   ("CRE config hash", approved.configHash, current.configHash),
   ("CRE workflow hash", approved.workflowHash, current.workflowHash),
   ("source tree hash", approved.sourceTreeHash, current.sourceTreeHash),
   ("config file sha256", approved.configSha256, current.configSha256)].filterMap
    fun (label, a, c) =>
      if a = c then none else some (label ++ ": approved " ++ a ++ ", now " ++ c)

def assertNoArtifactDrift (approved current : CreArtifact) : Except DeployError Unit :=
  if artifactDrift approved current = [] then .ok ()
  else .error (.cre "DEPLOYMENT_ARTIFACT_DRIFT" ("the workflow no longer matches what was approved"
    ++ " and must be re-approved:\n  " ++ "\n  ".intercalate (artifactDrift approved current)))

/-- The checks on the built artifact: the binary the approval recorded, and the hashes of the
    manifest. -/
def checkCreArtifact (run : DeploymentRun) (step : DeploymentStep)
    (workflow : ManifestCreWorkflow) (current : CreArtifact) : Except DeployError Unit :=
  let approvedBinary := run.plan.approval.bind fun a =>
    truthy (a.artifactHashes.get? ("cre-binary:" ++ workflow.workflowName))
  match approvedBinary.filter (· ≠ current.binaryHash) with
  | some approved =>
    .error (stepError "DEPLOYMENT_ARTIFACT_DRIFT" ("the built workflow binary is "
      ++ current.binaryHash ++ ", but " ++ approved
      ++ " was approved. Re-approval is required.") step.id)
  | none =>
    assertNoArtifactDrift
      { current with
        binaryHash := workflow.binaryHash, configHash := workflow.configHash,
        workflowHash := workflow.workflowHash, sourceTreeHash := workflow.sourceTreeHash }
      current

def executeCreDeploy (step : DeploymentStep) (manifest : DeploymentManifest) :
    Orchestrated Unit := do
  let valid : Bool ← Act.lift (← Act.call .creAuthValid)
  if ¬ valid then do
    moveTo .DEPLOYMENT_PAUSED_CRE_AUTH
    Act.fail (stepError "DEPLOY-CRE-AUTH-LOST"
      "the CRE session is no longer valid; re-connect and resume" step.id)
  else match manifest.creWorkflows.head? with
  | none => Act.fail (stepError STEP_FAILED "no CRE workflow in the manifest" step.id)
  | some workflow => do
    match ← Act.lift (← Act.call .creCurrentArtifact) with
    | none =>
      Act.fail (stepError "DEPLOYMENT_ARTIFACT_DRIFT"
        "no built CRE artifact is available to deploy" step.id)
    | some current => do
      Act.lift (checkCreArtifact (← get) step workflow current)
      let r : CreDeployed ← Act.lift (← Act.call (.creDeploy workflow.workflowName
        current.wasmPath workflow.registry current.wasmSha256))
      Act.update fun run =>
        { run with creWorkflowId := some r.workflowId, creStatus := some r.status }
      setStatus step.id .VERIFIED
      log (some step.id) ("CRE workflow " ++ r.workflowId ++ " registered in the " ++ r.registry
        ++ " registry from binary " ++ r.binaryHash ++ ", status " ++ r.status)

def creLifecycle (workflow : String) (action : CreAction) : Orchestrated String := do
  Act.lift (← Act.call (.creLifecycle workflow action))

/-- The state is read back, and the step marked. -/
def confirmPause (step : DeploymentStep) (workflow : String) : Orchestrated Unit := do
  let after ← creLifecycle workflow .get
  Act.update fun run => { run with creStatus := some after }
  setStatus step.id .VERIFIED
  log (some step.id) ("CRE workflow state read back as " ++ after ++ ". Note: this is not the"
    ++ " security control — the onchain ContextLock policy is disabled, and that is what"
    ++ " prevents authorized financial execution if the workflow triggers.")

def executeCrePause (step : DeploymentStep) (manifest : DeploymentManifest) :
    Orchestrated Unit := do
  match manifest.creWorkflows.head? with
  | none => Act.fail (stepError STEP_FAILED "no CRE workflow in the manifest" step.id)
  | some workflow => do
    let before ← creLifecycle workflow.workflowName .get
    if before.toUpper ≠ "PAUSED" then do
      let _ ← creLifecycle workflow.workflowName .pause
      confirmPause step workflow.workflowName
    else confirmPause step workflow.workflowName

/-! ## 7. Image steps -/

/-- The digest an image step works on; an empty one counts as none. -/
def builtDigest (run : DeploymentRun) (step : DeploymentStep) (missing : String) :
    Except DeployError String :=
  match truthy run.runtimeImageDigest with
  | some digest => .ok digest
  | none => .error (stepError STEP_FAILED missing step.id)

/-- What an image step does before it is marked `VERIFIED`. -/
def imageEffect (step : DeploymentStep) (image : ManifestRuntimeImage) : Orchestrated Unit := do
  match step.type with
  | .BUILD_RUNTIME_IMAGE => do
    let digest : String ← Act.lift (← Act.call (.imageBuild image.agentId))
    Act.update fun run => { run with runtimeImageDigest := some digest }
    log (some step.id) ("built " ++ image.agentId ++ " as " ++ digest)
  | .SCAN_RUNTIME_IMAGE => do
    let digest ← Act.lift (builtDigest (← get) step "nothing has been built to scan")
    let (promotable, detail) ← Act.lift (← Act.call (.imageScan digest))
    if ¬ promotable then do
      setStatus step.id .FAILED
      moveTo .DEPLOYMENT_FAILED_RECOVERABLE
      Act.fail (stepError "DEPLOY-IMAGE-GATE-FAILED" detail step.id)
    else log (some step.id) detail
  | .PUBLISH_RUNTIME_IMAGE => do
    let digest ← Act.lift (builtDigest (← get) step "nothing has been built to publish")
    Act.lift (← Act.call (.imagePublish digest))
    log (some step.id) ("published " ++ digest)
  | .CREATE_RUNTIME_DISABLED => do
    let digest ← Act.lift (builtDigest (← get) step "no image digest to create a runtime from")
    let revision : String ← Act.lift (← Act.call (.imageCreateDisabled image.agentId digest))
    log (some step.id) ("runtime revision " ++ revision ++ " created INACTIVE from digest "
      ++ digest)
  | _ => pure ()

def executeImageStep (step : DeploymentStep) (manifest : DeploymentManifest) :
    Orchestrated Unit := do
  match manifest.runtimeImages.head? with
  | none => Act.fail (stepError STEP_FAILED "no runtime image in the manifest" step.id)
  | some image => do
    imageEffect step image
    setStatus step.id .VERIFIED

/-! ## 8. Executing a plan -/

/-- The handler of each step type. -/
def handler (deps : Deps) (polls : Nat) (step : DeploymentStep) (manifest : DeploymentManifest) :
    Orchestrated Unit :=
  match step.type with
  | .VERIFY_CHAIN | .VERIFY_CORE | .CHECK_CRE_ACCESS | .BUILD_CRE_WASM | .VERIFY_CRE_HASH
  | .POST_DEPLOY_VERIFY => executeObservation step manifest
  | .DEPLOY_CONTRACT | .CONFIGURE_CONTRACT | .REGISTER_POLICY_DISABLED
  | .REGISTER_ENS_IDENTITY => executeWrite deps polls step manifest
  | .DEPLOY_CRE_PRIVATE => executeCreDeploy step manifest
  | .PAUSE_CRE => executeCrePause step manifest
  | .BUILD_RUNTIME_IMAGE | .SCAN_RUNTIME_IMAGE | .PUBLISH_RUNTIME_IMAGE
  | .CREATE_RUNTIME_DISABLED => executeImageStep step manifest
  | .ACTIVATE => Act.fail (stepError STEP_FAILED "no handler for step type ACTIVATE" step.id)

def executeStep (deps : Deps) (polls : Nat) (step : DeploymentStep)
    (manifest : DeploymentManifest) : Orchestrated Unit := do
  if step.type = .ACTIVATE then
    Act.fail (stepError "DEPLOY-POLICY-WOULD-BE-ENABLED" ("step type ACTIVATE would grant"
      ++ " authority during a deployment; activation is a separate ceremony") step.id)
  else do
    moveTo (← Act.lift (phaseFor step.type))
    match (← get).transactions.get? step.id with
    | some existing => do
      Act.lift (assertSafeToRetry existing)
      handler deps polls step manifest
    | none => handler deps polls step manifest

/-- The end of `executeStep`: a step with a record is executed where a retry is safe. -/
def executeRecorded (deps : Deps) (polls : Nat) (step : DeploymentStep)
    (manifest : DeploymentManifest) : Orchestrated Unit := do
  match (← get).transactions.get? step.id with
  | some existing => do
    Act.lift (assertSafeToRetry existing)
    handler deps polls step manifest
  | none => handler deps polls step manifest

section Step

variable {deps : Deps} {polls : Nat} {step : DeploymentStep} {manifest : DeploymentManifest}
variable {run : DeploymentRun}

theorem executeStep_eq (h : step.type ≠ .ACTIVATE) :
    executeStep deps polls step manifest = (do
      moveTo (← Act.lift (phaseFor step.type))
      executeRecorded deps polls step manifest) := by
  unfold executeStep
  rw [if_neg h]
  rfl

theorem executeRecorded_of_none (h : run.transactions.get? step.id = none) :
    executeRecorded deps polls step manifest run = handler deps polls step manifest run := by
  unfold executeRecorded
  rw [Act.bind_apply, Act.get_apply]
  simp only [Script.bind, h]

theorem executeRecorded_of_some {existing : TransactionRecord}
    (h : run.transactions.get? step.id = some existing) :
    executeRecorded deps polls step manifest run = (do
      Act.lift (assertSafeToRetry existing)
      handler deps polls step manifest : Orchestrated Unit) run := by
  unfold executeRecorded
  rw [Act.bind_apply, Act.get_apply]
  simp only [Script.bind, h]

end Step

/-- The loop of `runToCompletion`, for at most `maxSteps` passes. -/
def runSteps (deps : Deps) (polls : Nat) (manifest : DeploymentManifest) :
    Nat → Orchestrated Unit
  | 0 => pure ()
  | maxSteps + 1 => do
    match nextStep (← get) with
    | none => pure ()
    | some step => do
      executeStep deps polls step manifest
      runSteps deps polls manifest maxSteps

section Steps

variable {deps : Deps} {polls maxSteps : Nat} {manifest : DeploymentManifest} {run : DeploymentRun}

theorem runSteps_of_none (h : nextStep run = none) :
    runSteps deps polls manifest (maxSteps + 1) run = .ok () run := by
  unfold runSteps
  rw [Act.bind_apply, Act.get_apply]
  simp only [Script.bind, h, Act.pure_apply]

theorem runSteps_of_some {step : DeploymentStep} (h : nextStep run = some step) :
    runSteps deps polls manifest (maxSteps + 1) run
      = (executeStep deps polls step manifest run).bind fun _ =>
          runSteps deps polls manifest maxSteps := by
  rw [runSteps, Act.bind_apply, Act.get_apply]
  simp only [Script.bind, h, Act.bind_apply]

end Steps

/-- The end of `runToCompletion`: with every step done, the run is ready to be activated. -/
def finish : Orchestrated Unit := do
  if (← get).plan.steps.all (·.done) then do
    moveTo .VERIFYING_DEPLOYMENT
    moveTo .READY_TO_ACTIVATE
    log none ("READY_TO_ACTIVATE. The policy is disabled, the runtime is inactive and the CRE"
      ++ " workflow is paused. Activation is a separate, explicit operation.")
  else pure ()

def runToCompletion (deps : Deps) (polls : Nat) (manifest : DeploymentManifest)
    (maxSteps : Nat) : Orchestrated Unit := do
  resume deps manifest
  runSteps deps polls manifest maxSteps
  finish

/-- `runToCompletion` past the check of the approval. -/
def runApproved (deps : Deps) (polls : Nat) (manifest : DeploymentManifest) (maxSteps : Nat) :
    Orchestrated Unit := do
  resumeApproved deps manifest
  runSteps deps polls manifest maxSteps
  finish

theorem runToCompletion_of_approved {deps : Deps} {polls maxSteps : Nat}
    {manifest : DeploymentManifest} {run : DeploymentRun} (hstate : run.state ∈ RESUMABLE_STATES)
    (happroved : assertApprovedFor run.plan manifest = .ok ()) :
    runToCompletion deps polls manifest maxSteps run =
      runApproved deps polls manifest maxSteps run := by
  have hresume : resume deps manifest run = resumeApproved deps manifest run := by
    simp only [resume, Act.bind_apply, Act.get_apply, Script.bind_ok]
    rw [if_neg (not_not.mpr hstate), happroved]
    rfl
  simp only [runToCompletion, runApproved, Act.bind_apply, hresume]

theorem runToCompletion_of_refused (deps : Deps) (polls maxSteps : Nat)
    {manifest : DeploymentManifest} {run : DeploymentRun}
    (h : run.state ∉ RESUMABLE_STATES ∨ assertApprovedFor run.plan manifest ≠ .ok ()) :
    ∃ e, runToCompletion deps polls manifest maxSteps run = .threw e run := by
  have hresume : ∃ e, resume deps manifest run = .threw e run := by
    simp only [resume, Act.bind_apply, Act.get_apply, Script.bind_ok]
    by_cases hstate : run.state ∈ RESUMABLE_STATES
    · rw [if_neg (not_not.mpr hstate)]
      cases ha : assertApprovedFor run.plan manifest with
      | error e => exact ⟨e, rfl⟩
      | ok u => exact absurd ha (h.resolve_left (not_not.mpr hstate))
    · rw [if_pos hstate]
      exact ⟨_, rfl⟩
  obtain ⟨e, he⟩ := hresume
  exact ⟨e, by simp only [runToCompletion, Act.bind_apply, he, Script.bind_threw]⟩

end ContextLock.Orchestrator
