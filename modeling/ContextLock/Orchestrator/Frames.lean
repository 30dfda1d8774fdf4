/-
  Subject:   What the actions of the orchestrator leave alone.

  One lemma for every action: it keeps each part of the run that is not among what the action
  writes. The parts in use are the terms of the plan, the records with the terms, and what a
  single step stands at.
-/
import ContextLock.Orchestrator.Run

namespace ContextLock.Orchestrator

open Js Deploy Machine

/-! ## 1. Parts of a run -/

/-- A part of a run that is none of what every step writes: the log, a phase short of
    readiness, the created addresses, the workflow and the image. -/
class Ambient {τ : Type} (π : DeploymentRun → τ) : Prop where
  events : ∀ run es, π { run with events := es } = π run
  phase : ∀ run target, assertTransition run.state target = .ok () →
    target ≠ .READY_TO_ACTIVATE → π { run with state := target } = π run
  created : ∀ run addresses, π { run with createdAddresses := addresses } = π run
  cre : ∀ run id status, π { run with creWorkflowId := id, creStatus := status } = π run
  image : ∀ run digest, π { run with runtimeImageDigest := digest } = π run

/-- A part of a run that is none of what the steps without images write. -/
class Background {τ : Type} (π : DeploymentRun → τ) : Prop where
  events : ∀ run es, π { run with events := es } = π run
  phase : ∀ run target, assertTransition run.state target = .ok () →
    target ≠ .READY_TO_ACTIVATE → π { run with state := target } = π run
  created : ∀ run addresses, π { run with createdAddresses := addresses } = π run
  cre : ∀ run id status, π { run with creWorkflowId := id, creStatus := status } = π run

instance Ambient.background {τ : Type} {π : DeploymentRun → τ} [Ambient π] : Background π :=
  ⟨Ambient.events, Ambient.phase, Ambient.created, Ambient.cre⟩

def FreeOfStatus {τ : Type} (π : DeploymentRun → τ) (stepId : String) : Prop :=
  ∀ run status, π { run with plan := run.plan.withStatus stepId status } = π run

def FreeOfRecord {τ : Type} (π : DeploymentRun → τ) (stepId : String) : Prop :=
  ∀ run record, π { run with transactions := run.transactions.set stepId record } = π run

def FreeOfReadiness {τ : Type} (π : DeploymentRun → τ) : Prop :=
  ∀ run target, π { run with state := target } = π run

def DeploymentRun.terms (run : DeploymentRun) : DeploymentPlan := run.plan.terms

theorem nextStep_mem {run : DeploymentRun} {step : DeploymentStep} (h : nextStep run = some step) :
    step.terms ∈ run.terms.steps :=
  mem_terms_of_mem (List.mem_of_find?_eq_some h)

/-- The records, and the terms of the plan. -/
def DeploymentRun.commitments (run : DeploymentRun) : Map TransactionRecord × DeploymentPlan :=
  (run.transactions, run.terms)

instance : Ambient DeploymentRun.terms :=
  ⟨fun _ _ => rfl, fun _ _ _ _ => rfl, fun _ _ => rfl, fun _ _ _ => rfl, fun _ _ => rfl⟩

instance : Ambient DeploymentRun.commitments :=
  ⟨fun _ _ => rfl, fun _ _ _ _ => rfl, fun _ _ => rfl, fun _ _ _ => rfl, fun _ _ => rfl⟩

theorem terms_status (stepId : String) : FreeOfStatus DeploymentRun.terms stepId :=
  fun run status => terms_withStatus run.plan stepId status

theorem terms_record (stepId : String) : FreeOfRecord DeploymentRun.terms stepId :=
  fun _ _ => rfl

theorem commitments_status (stepId : String) : FreeOfStatus DeploymentRun.commitments stepId :=
  fun run status => Prod.ext rfl (terms_withStatus run.plan stepId status)

/-! ## 2. Kinds of calls -/

/-- A call to anything but the wallet, and about no step and manifest outside `P`. -/
def Effect.within (P : DeploymentStep → DeploymentManifest → Prop) : Effect → Prop
  | .sendTransaction _ _ => False
  | .resolveCalldata step manifest => P step manifest
  | .observe step manifest _ => P step manifest
  | _ => True

/-- A call to anything but the wallet. -/
abbrev Effect.quiet : Effect → Prop := Effect.within fun _ _ => True

def Effect.aboutImages : Effect → Prop
  | .imageBuild _ | .imageScan _ | .imagePublish _ | .imageCreateDisabled _ _ => True
  | _ => False

/-- Every call that sends nothing, is about no image, and about no step and manifest outside `P`,
    is one of `Q`. -/
class Plain (P : outParam (DeploymentStep → DeploymentManifest → Prop)) (Q : Effect → Prop) :
    Prop where
  call : ∀ e : Effect, ¬ e.aboutImages → e.within P → Q e

instance Plain.within {P : DeploymentStep → DeploymentManifest → Prop} :
    Plain P (Effect.within P) := ⟨fun _ _ h => h⟩

instance Plain.all : Plain (fun _ _ => True) fun _ => True := ⟨fun _ _ _ => trivial⟩

instance Plain.imageless : Plain (fun _ _ => True) fun e => ¬ e.aboutImages := ⟨fun _ h _ => h⟩

/-- The action leaves `π` of the run alone and sends nothing. -/
abbrev Silent {τ : Type} (π : DeploymentRun → τ) (P : DeploymentStep → DeploymentManifest → Prop)
    {α : Type} (m : Orchestrated α) : Prop := m.Keeps π (Effect.within P)

/-- The action leaves the terms of the plan alone, whatever it calls. -/
abbrev KeepsAll {τ : Type} (π : DeploymentRun → τ) {α : Type} (m : Orchestrated α) : Prop :=
  m.Keeps π fun _ => True

variable {τ : Type} {π : DeploymentRun → τ} {P : DeploymentStep → DeploymentManifest → Prop}
  {Q : Effect → Prop} [hplain : Plain P Q]

section Background

/-! ## 3. Writing to the run -/

include hplain

theorem call_keeps {e : Effect} (he : ¬ e.aboutImages) (hP : e.within P) :
    Act.Keeps π Q (Act.call e : Orchestrated (Reply e)) := .call (hplain.call e he hP)

theorem nowMs_keeps : Act.Keeps π Q nowMs := call_keeps id trivial

variable [Background π]

theorem log_keeps (stepId : Option String) (message : String) : Act.Keeps π Q (log stepId message) :=
  .bind nowMs_keeps fun _ => .update fun run => Background.events run _

theorem moveTo_keeps {target : DeploymentState} (ht : target ≠ .READY_TO_ACTIVATE) :
    Act.Keeps π Q (moveTo target) := by
  intro run
  unfold moveTo
  simp only [Act.bind_apply, Act.get_apply, Script.bind_ok]
  by_cases h : run.state = target
  · rw [if_pos h]
    rfl
  rw [if_neg h]
  simp only [Act.bind_apply]
  cases ha : assertTransition run.state target with
  | error e => rfl
  | ok u =>
    refine ⟨rfl, hplain.call _ id trivial, fun atMs => ?_⟩
    let logged : DeploymentRun :=
      { run with
        events := run.events ++ [⟨atMs, none, run.state.text ++ " -> " ++ target.text⟩] }
    exact (Background.phase logged target ha ht).trans (Background.events run logged.events)

theorem moveTo_keeps_of_free (h : FreeOfReadiness π) (target : DeploymentState) :
    Act.Keeps π Q (moveTo target) := by
  refine .bind .get fun run => ?_
  split
  · exact .pure _
  · exact .bind (.lift _) fun _ => .bind (log_keeps _ _) fun _ => .update fun run => h run _

omit hplain [Background π] in
theorem setStatus_keeps {stepId : String} (h : FreeOfStatus π stepId)
    (status : DeploymentStepStatus) : Act.Keeps π Q (setStatus stepId status) :=
  .update fun run => h run status

omit hplain in
theorem setCreated_keeps (stepId : String) (address : Option String) :
    Act.Keeps π Q (setCreated stepId address) := by
  unfold setCreated
  split
  · exact .update fun run => Background.created run _
  · exact .pure _

omit hplain [Background π] in
theorem setRecord_keeps {stepId : String} (h : FreeOfRecord π stepId) (record : TransactionRecord) :
    Act.Keeps π Q (setRecord stepId record) :=
  .update fun run => h run record

end Background

/-! ## 4. Reads -/

/-- A call to a chain reader or the clock. -/
def Effect.reads : Effect → Prop
  | .nowMs | .sleep _ | .waiting | .getTransactionCount _ _ _ | .getTransactionReceipt _ _
  | .getBlockNumber _ => True
  | _ => False

section Reads

variable {σ : Type}

abbrev Reads {α : Type} (m : Asks σ α) : Prop := m.Keeps id Effect.reads

theorem getTransactionCount_reads (chainId : Nat) (address stepId : String) :
    Reads (getTransactionCount (σ := σ) chainId address stepId) :=
  .bind (.call trivial) fun _ => .lift _

theorem reconcile_reads (record : TransactionRecord) (chainId now : Nat) :
    Reads (reconcile (σ := σ) record chainId now) := by
  unfold reconcile
  split
  · refine .bind (.bind (.call trivial) fun _ => .lift _) fun receipt => ?_
    split
    · exact .bind (.bind (.call trivial) fun _ => .lift _) fun _ => .pure _
    · exact .pure _
  · exact .bind (getTransactionCount_reads _ _ _) fun _ => .pure _

theorem waiting_reads {α : Type} (f : Reply .waiting → Asks σ α) :
    Reads (Act.call .waiting >>= f) :=
  .bind (.call trivial) fun r => nomatch r

theorem pollForReceipt_reads (chainId : Nat) (opts : Waiting) (deadline polls : Nat)
    (record : TransactionRecord) :
    Reads (pollForReceipt (σ := σ) chainId opts deadline polls record) := by
  induction polls generalizing record with
  | zero => exact waiting_reads _
  | succ polls ih =>
    refine .bind (.call trivial) fun now => .bind (reconcile_reads _ _ _) fun current => ?_
    split
    · exact .pure _
    refine .bind (.call trivial) fun now' => ?_
    split
    · exact .pure _
    · exact .bind (.call trivial) fun _ => ih current

theorem pollForFinality_reads (chainId confirmations : Nat) (opts : Waiting) (deadline polls : Nat)
    (record : TransactionRecord) :
    Reads (pollForFinality (σ := σ) chainId confirmations opts deadline polls record) := by
  induction polls generalizing record with
  | zero => exact waiting_reads _
  | succ polls ih =>
    unfold pollForFinality
    split
    · refine .bind (.call trivial) fun now => ?_
      split
      · exact .bind (.call trivial) fun _ => .bind (.call trivial) fun _ =>
          .bind (reconcile_reads _ _ _) fun current => ih current
      · exact .pure _
    · exact .pure _

theorem waitForFinality_reads (record : TransactionRecord) (chainId confirmations : Nat)
    (opts : Waiting) (polls : Nat) :
    Reads (waitForFinality (σ := σ) record chainId confirmations opts polls) :=
  .bind (.call trivial) fun _ =>
    .bind (.bind (.call trivial) fun _ => pollForReceipt_reads _ _ _ _ _) fun _ =>
      pollForFinality_reads _ _ _ _ _ _

include hplain in
theorem Reads.keeps {α : Type} {m : Orchestrated α} (h : Reads m) : Act.Keeps π Q m :=
  fun s => (h s).map π fun e he => by
    refine hplain.call e ?_ ?_
    all_goals cases e <;> first | exact he.elim | exact id | trivial

end Reads

/-! ## 5. Steps -/

section Steps

include hplain

variable [Background π] {step : DeploymentStep} {manifest : DeploymentManifest}

omit [Background π] in
theorem observe_keeps (hP : P step manifest) : Act.Keeps π Q (observe step manifest) :=
  .bind .get fun _ => .bind (call_keeps id hP) fun _ => .lift _

theorem reconcileUnknown_keeps (deps : Deps) {stepId : String} (hr : FreeOfRecord π stepId) :
    Act.Keeps π Q (reconcileUnknown deps stepId) := by
  refine .bind .get fun run => ?_
  split
  · exact .pure _
  split
  · exact .pure _
  split
  · exact .pure _
  refine .bind nowMs_keeps fun now => .bind (reconcile_reads _ _ _).keeps fun resolved =>
    .bind (setRecord_keeps hr _) fun _ => .bind (log_keeps _ _) fun _ => ?_
  split
  · exact setCreated_keeps _ _
  · exact .pure _

variable (hs : FreeOfStatus π step.id)

include hs

theorem observeStep_keeps (hP : P step manifest) : Act.Keeps π Q (observeStep manifest step) := by
  refine .bind .get fun run => ?_
  dsimp only
  split
  · exact .pure _
  split
  · exact .pure _
  refine .bind (observe_keeps hP) fun seen => ?_
  split
  · exact .bind (setStatus_keeps hs _) fun _ => .bind (setCreated_keeps _ _) fun _ => log_keeps _ _
  · exact .pure _

theorem executeObservation_keeps (hP : P step manifest) :
    Act.Keeps π Q (executeObservation step manifest) := by
  refine .bind (observe_keeps hP) fun seen => ?_
  split
  · exact .bind (setStatus_keeps hs _) fun _ => .fail _
  · exact .bind (setCreated_keeps _ _) fun _ => .bind (setStatus_keeps hs _) fun _ => log_keeps _ _

theorem executeCreDeploy_keeps (manifest : DeploymentManifest) :
    Act.Keeps π Q (executeCreDeploy step manifest) := by
  refine .bind (call_keeps id trivial) fun _ => .bind (.lift _) fun valid => ?_
  split
  · exact .bind (moveTo_keeps (by decide)) fun _ => .fail _
  split
  · exact .fail _
  refine .bind (call_keeps id trivial) fun _ => .bind (.lift _) fun current => ?_
  split
  · exact .fail _
  refine .bind .get fun _ => .bind (.lift _) fun _ => .bind (call_keeps id trivial) fun _ =>
    .bind (.lift _) fun r => .bind (.update fun run => Background.cre run _ _) fun _ => ?_
  exact .bind (setStatus_keeps hs _) fun _ => log_keeps _ _

omit [Background π] hs in
theorem creLifecycle_keeps (workflow : String) (action : CreAction) :
    Act.Keeps π Q (creLifecycle workflow action) :=
  .bind (call_keeps id trivial) fun _ => .lift _

theorem confirmPause_keeps (workflow : String) : Act.Keeps π Q (confirmPause step workflow) :=
  .bind (creLifecycle_keeps _ _) fun _ => .bind (.update fun run => Background.cre run _ _) fun _ =>
    .bind (setStatus_keeps hs _) fun _ => log_keeps _ _

theorem executeCrePause_keeps (manifest : DeploymentManifest) :
    Act.Keeps π Q (executeCrePause step manifest) := by
  unfold executeCrePause
  split
  · exact .fail _
  refine .bind (creLifecycle_keeps _ _) fun before => ?_
  split
  · exact .bind (creLifecycle_keeps _ _) fun _ => confirmPause_keeps hs _
  · exact confirmPause_keeps hs _

theorem writeFailed_keeps (detail : String) : Act.Keeps π Q (writeFailed step detail) :=
  .bind (setStatus_keeps hs _) fun _ => .bind (moveTo_keeps (by decide)) fun _ => .fail _

theorem sendStopped_keeps (signerId : String) (rejected : Bool) :
    Act.Keeps π Q (sendStopped step signerId rejected) := by
  unfold sendStopped
  split
  · exact .bind (setStatus_keeps hs _) fun _ => .bind (moveTo_keeps (by decide)) fun _ => .fail _
  · exact .bind (setStatus_keeps hs _) fun _ => .bind (moveTo_keeps (by decide)) fun _ => .fail _

theorem afterSettled_keeps (hP : P step manifest) (settled : TransactionRecord) :
    Act.Keeps π Q (afterSettled step manifest settled) := by
  unfold afterSettled
  split
  · exact writeFailed_keeps hs _
  refine .bind (setCreated_keeps _ _) fun _ => .bind (setStatus_keeps hs _) fun _ =>
    .bind (observe_keeps hP) fun seen => ?_
  split
  · exact writeFailed_keeps hs _
  · exact .bind (setStatus_keeps hs _) fun _ => log_keeps _ _

section Writes

variable (hr : FreeOfRecord π step.id)

include hr

theorem sendFailed_keeps (signerId : String) (record : TransactionRecord) (e : DeployError) :
    Act.Keeps π Q (sendFailed step signerId record e) :=
  .bind nowMs_keeps fun _ => .bind (setRecord_keeps hr _) fun _ => sendStopped_keeps hs _ _

theorem settleWrite_keeps (deps : Deps) (polls : Nat) (hP : P step manifest) (chainId : Nat)
    (record : TransactionRecord) :
    Act.Keeps π Q (settleWrite deps polls step manifest chainId record) :=
  .bind (waitForFinality_reads _ _ _ _ _).keeps fun _ =>
    .bind (setRecord_keeps hr _) fun _ => afterSettled_keeps hs hP _

theorem executeWrite_keeps (deps : Deps) (polls : Nat) (hP : P step manifest)
    (hwallet : ∀ signerId prepared, Q (.sendTransaction signerId prepared)) :
    Act.Keeps π Q (executeWrite deps polls step manifest) := by
  refine .bind (.lift _) fun target => ?_
  refine .bind (getTransactionCount_reads _ _ _).keeps fun nonce => .bind .get fun run =>
    .bind (.bind (call_keeps id hP) fun _ => .lift _) fun prepared => .bind (.lift _) fun _ =>
      .bind (setStatus_keeps hs _) fun _ =>
        .bind (.attempt (.bind (.call (hwallet _ _)) fun _ => .lift _)) fun outcome => ?_
  split
  · exact sendFailed_keeps hs hr _ _ _
  · exact .bind nowMs_keeps fun _ => .bind (setRecord_keeps hr _) fun _ =>
      settleWrite_keeps hs hr _ _ hP _ _

end Writes

/-- The types of step that go to the wallet. -/
def writes : DeploymentStepType → Prop
  | .DEPLOY_CONTRACT | .CONFIGURE_CONTRACT | .REGISTER_POLICY_DISABLED
  | .REGISTER_ENS_IDENTITY => True
  | _ => False

instance (t : DeploymentStepType) : Decidable (writes t) := by
  unfold writes
  split <;> infer_instance

def onImages : DeploymentStepType → Prop
  | .BUILD_RUNTIME_IMAGE | .SCAN_RUNTIME_IMAGE | .PUBLISH_RUNTIME_IMAGE
  | .CREATE_RUNTIME_DISABLED => True
  | _ => False

theorem handler_keeps_of {deps : Deps} {polls : Nat} (hP : P step manifest)
    (hwrite : writes step.type → Act.Keeps π Q (executeWrite deps polls step manifest))
    (himage : onImages step.type → Act.Keeps π Q (executeImageStep step manifest)) :
    Act.Keeps π Q (handler deps polls step manifest) := by
  unfold handler
  split
  all_goals first
    | exact executeObservation_keeps hs hP
    | exact executeCreDeploy_keeps hs _
    | exact executeCrePause_keeps hs _
    | exact .fail _
    | simp_all [writes, onImages]

omit [Background π] hplain

variable [Ambient π]

theorem imageEffect_keeps (image : ManifestRuntimeImage) : Silent π P (imageEffect step image) := by
  unfold imageEffect
  split
  · exact .bind (.call trivial) fun _ => .bind (.lift _) fun _ =>
      .bind (.update fun run => Ambient.image run _) fun _ => log_keeps _ _
  · refine .bind .get fun _ => .bind (.lift _) fun _ => .bind (.call trivial) fun _ =>
      .bind (.lift _) fun scan => ?_
    dsimp only
    split
    · exact .bind (setStatus_keeps hs _) fun _ => .bind (moveTo_keeps (by decide)) fun _ => .fail _
    · exact log_keeps _ _
  · exact .bind .get fun _ => .bind (.lift _) fun _ => .bind (.call trivial) fun _ =>
      .bind (.lift _) fun _ => log_keeps _ _
  · exact .bind .get fun _ => .bind (.lift _) fun _ => .bind (.call trivial) fun _ =>
      .bind (.lift _) fun _ => log_keeps _ _
  · exact .pure _

theorem executeImageStep_keeps (manifest : DeploymentManifest) :
    Silent π P (executeImageStep step manifest) := by
  unfold executeImageStep
  split
  · exact .fail _
  · exact .bind (imageEffect_keeps hs _) fun _ => setStatus_keeps hs _

/-- **A step that is no write sends nothing and writes no record.** -/
theorem handler_keeps {deps : Deps} {polls : Nat} (h : ¬ writes step.type) (hP : P step manifest) :
    Silent π P (handler deps polls step manifest) :=
  handler_keeps_of hs hP (fun hwrite => absurd hwrite h) fun _ => executeImageStep_keeps hs _

omit [Ambient π] hs in
/-- A write step is executed by `executeWrite`. -/
theorem handler_write {deps : Deps} {polls : Nat} (h : writes step.type) :
    handler deps polls step manifest = executeWrite deps polls step manifest := by
  unfold handler
  split <;> simp_all [writes]

theorem handler_keepsAll (deps : Deps) (polls : Nat) (hr : FreeOfRecord π step.id)
    (manifest : DeploymentManifest) : KeepsAll π (handler deps polls step manifest) :=
  handler_keeps_of hs trivial (fun _ => executeWrite_keeps hs hr _ _ trivial fun _ _ => trivial)
    fun _ s => (executeImageStep_keeps (P := fun _ _ => True) hs manifest s).map id
      fun _ _ => trivial

omit [Ambient π] hs in
theorem phaseFor_ne_ready {t : DeploymentStepType} {phase : DeploymentState}
    (h : phaseFor t = .ok phase) : phase ≠ .READY_TO_ACTIVATE := by
  cases t <;> simp_all [phaseFor] <;> subst h <;> decide

omit hs in
theorem enterPhase_keeps (t : DeploymentStepType) {f : Orchestrated Unit} (hf : KeepsAll π f) :
    KeepsAll π (do
      moveTo (← Act.lift (phaseFor t))
      f : Orchestrated Unit) := by
  cases h : phaseFor t with
  | error e => exact .fail e
  | ok phase =>
    have hmove : KeepsAll π (moveTo phase >>= fun _ => f) :=
      .bind (moveTo_keeps (phaseFor_ne_ready h)) fun _ => hf
    exact hmove

theorem executeStep_keeps (deps : Deps) (polls : Nat) (hr : FreeOfRecord π step.id)
    (manifest : DeploymentManifest) : KeepsAll π (executeStep deps polls step manifest) := by
  unfold executeStep
  split
  · exact .fail _
  refine enterPhase_keeps _ (.bind .get fun run => ?_)
  split
  · exact .bind (.lift _) fun _ => handler_keepsAll hs _ _ hr _
  · exact handler_keepsAll hs _ _ hr _

end Steps

/-! ## 6. Whole runs -/

section Runs

include hplain

variable [Background π] (hs : ∀ stepId, FreeOfStatus π stepId) (hr : ∀ stepId, FreeOfRecord π stepId)

theorem finish_keeps (h : FreeOfReadiness π) : Act.Keeps π Q finish := by
  refine .bind .get fun run => ?_
  split
  · exact .bind (moveTo_keeps_of_free h _) fun _ =>
      .bind (moveTo_keeps_of_free h _) fun _ => log_keeps _ _
  · exact .pure _

include hs hr

theorem resumeApproved_keeps (deps : Deps) {manifest : DeploymentManifest}
    (hP : ∀ step, P step manifest) : Act.Keeps π Q (resumeApproved deps manifest) :=
  .bind .get fun _ => .bind (.forM fun _ => reconcileUnknown_keeps _ (hr _)) fun _ =>
    .bind .get fun _ => .forM fun _ => observeStep_keeps (hs _) (hP _)

omit [Background π] hplain

variable [Ambient π]

theorem runSteps_keeps (deps : Deps) (polls : Nat) (manifest : DeploymentManifest)
    (maxSteps : Nat) : KeepsAll π (runSteps deps polls manifest maxSteps) := by
  induction maxSteps with
  | zero => exact .pure _
  | succ n ih =>
    refine .bind .get fun run => ?_
    split
    · exact .pure _
    · exact .bind (executeStep_keeps (hs _) _ _ (hr _) _) fun _ => ih

end Runs

/-- **No action changes the terms of the plan.** -/
theorem runToCompletion_terms (deps : Deps) (polls : Nat) (manifest : DeploymentManifest)
    (maxSteps : Nat) :
    KeepsAll DeploymentRun.terms (runToCompletion deps polls manifest maxSteps) := by
  intro run
  by_cases h : run.state ∈ RESUMABLE_STATES ∧ assertApprovedFor run.plan manifest = .ok ()
  · rw [runToCompletion_of_approved h.1 h.2]
    have hrun : KeepsAll DeploymentRun.terms (runApproved deps polls manifest maxSteps) :=
      .bind (resumeApproved_keeps terms_status terms_record _ fun _ => trivial) fun _ =>
        .bind (runSteps_keeps terms_status terms_record _ _ _ _) fun _ =>
          finish_keeps fun _ _ => rfl
    exact hrun run
  · obtain ⟨e, he⟩ := runToCompletion_of_refused deps polls maxSteps (not_and_or.mp h)
    rw [he]
    rfl

end ContextLock.Orchestrator
