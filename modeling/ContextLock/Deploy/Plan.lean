/-
  Subject:   Deployment plans: steps, readiness, approval, and the hash a human signs.
-/
import ContextLock.Deploy.Environment
import ContextLock.Js.Map

namespace ContextLock.Deploy

open Js

/-! ## 1. Steps -/

inductive DeploymentStepType where
  | VERIFY_CHAIN
  | VERIFY_CORE
  | DEPLOY_CONTRACT
  | CONFIGURE_CONTRACT
  | REGISTER_POLICY_DISABLED
  | REGISTER_ENS_IDENTITY
  | BUILD_CRE_WASM
  | VERIFY_CRE_HASH
  | CHECK_CRE_ACCESS
  | DEPLOY_CRE_PRIVATE
  | PAUSE_CRE
  | BUILD_RUNTIME_IMAGE
  | SCAN_RUNTIME_IMAGE
  | PUBLISH_RUNTIME_IMAGE
  | CREATE_RUNTIME_DISABLED
  | POST_DEPLOY_VERIFY
  | ACTIVATE
  deriving DecidableEq

def DeploymentStepType.text : DeploymentStepType → String
  | VERIFY_CHAIN => "VERIFY_CHAIN"
  | VERIFY_CORE => "VERIFY_CORE"
  | DEPLOY_CONTRACT => "DEPLOY_CONTRACT"
  | CONFIGURE_CONTRACT => "CONFIGURE_CONTRACT"
  | REGISTER_POLICY_DISABLED => "REGISTER_POLICY_DISABLED"
  | REGISTER_ENS_IDENTITY => "REGISTER_ENS_IDENTITY"
  | BUILD_CRE_WASM => "BUILD_CRE_WASM"
  | VERIFY_CRE_HASH => "VERIFY_CRE_HASH"
  | CHECK_CRE_ACCESS => "CHECK_CRE_ACCESS"
  | DEPLOY_CRE_PRIVATE => "DEPLOY_CRE_PRIVATE"
  | PAUSE_CRE => "PAUSE_CRE"
  | BUILD_RUNTIME_IMAGE => "BUILD_RUNTIME_IMAGE"
  | SCAN_RUNTIME_IMAGE => "SCAN_RUNTIME_IMAGE"
  | PUBLISH_RUNTIME_IMAGE => "PUBLISH_RUNTIME_IMAGE"
  | CREATE_RUNTIME_DISABLED => "CREATE_RUNTIME_DISABLED"
  | POST_DEPLOY_VERIFY => "POST_DEPLOY_VERIFY"
  | ACTIVATE => "ACTIVATE"

inductive ActorType where
  | USER_WALLET
  | LOCAL_BRIDGE
  | CONTROL_PLANE
  | READ_ONLY
  deriving DecidableEq

def ActorType.text : ActorType → String
  | USER_WALLET => "USER_WALLET"
  | LOCAL_BRIDGE => "LOCAL_BRIDGE"
  | CONTROL_PLANE => "CONTROL_PLANE"
  | READ_ONLY => "READ_ONLY"

inductive DeploymentStepStatus where
  | PENDING
  | READY
  | SUBMITTED
  | UNKNOWN_SUBMISSION_STATE
  | CONFIRMED
  | VERIFIED
  | FAILED
  | SKIPPED_ALREADY_SATISFIED
  deriving DecidableEq

inductive FeeMode where
  | EIP1559
  | LEGACY

def FeeMode.text : FeeMode → String
  | EIP1559 => "EIP1559"
  | LEGACY => "LEGACY"

/-- The cost estimate of a step; amounts are decimal texts. -/
structure StepCost where
  estimatedGas : String
  feeMode : FeeMode
  maxFeePerGasWei : String
  maxPriorityFeePerGasWei : Option String
  baseNativeWei : String
  bufferBps : Nat
  bufferNativeWei : String
  totalNativeWei : String
  quotedAtMs : Nat
  fromLiveNode : Bool

structure DeploymentStep where
  id : String
  type : DeploymentStepType
  chainId : Option Nat
  dependencyIds : List String
  actorType : ActorType
  requiredSigner : Option String
  artifactHash : Option String
  target : Option String
  calldataHash : Option String
  cost : Option StepCost
  reversible : Bool
  rollbackAction : Option String
  status : DeploymentStepStatus

/-- The step without its progress. -/
def DeploymentStep.terms (s : DeploymentStep) : DeploymentStep := { s with status := .PENDING }

def DeploymentStep.done (s : DeploymentStep) : Bool :=
  s.status = .VERIFIED ∨ s.status = .SKIPPED_ALREADY_SATISFIED

/-! ## 2. Plans -/

inductive Readiness where
  | PREFLIGHT_DRAFT
  | PREFLIGHT_RUNNING
  | PREFLIGHT_BLOCKED
  | PREFLIGHT_READY
  | DEPLOYMENT_APPROVED
  deriving DecidableEq

def Readiness.text : Readiness → String
  | PREFLIGHT_DRAFT => "PREFLIGHT_DRAFT"
  | PREFLIGHT_RUNNING => "PREFLIGHT_RUNNING"
  | PREFLIGHT_BLOCKED => "PREFLIGHT_BLOCKED"
  | PREFLIGHT_READY => "PREFLIGHT_READY"
  | DEPLOYMENT_APPROVED => "DEPLOYMENT_APPROVED"

structure Approval where
  approvedBy : String
  approvedAtMs : Nat
  manifestHash : String
  planHash : String
  artifactHashes : Map String

structure DeploymentPlan where
  planId : String
  manifestHash : String
  steps : List DeploymentStep
  readiness : Readiness
  approval : Option Approval

def DeploymentPlan.withStatus (plan : DeploymentPlan) (stepId : String)
    (status : DeploymentStepStatus) : DeploymentPlan :=
  { plan with
    steps := plan.steps.map fun s => if s.id = stepId then { s with status := status } else s }

/-! ## 3. The identity of a plan -/

def StepCost.json (c : StepCost) : Json :=
  .obj [("estimatedGas", .str c.estimatedGas), ("feeMode", .str c.feeMode.text),
    ("maxFeePerGasWei", .str c.maxFeePerGasWei),
    ("maxPriorityFeePerGasWei", jsonOr .str c.maxPriorityFeePerGasWei),
    ("baseNativeWei", .str c.baseNativeWei), ("bufferBps", jsonNat c.bufferBps),
    ("bufferNativeWei", .str c.bufferNativeWei), ("totalNativeWei", .str c.totalNativeWei),
    ("quotedAtMs", jsonNat c.quotedAtMs), ("fromLiveNode", .bool c.fromLiveNode)]

/-- A step without its status. -/
def DeploymentStep.identity (s : DeploymentStep) : Json :=
  .obj [("id", .str s.id), ("type", .str s.type.text), ("chainId", jsonOr jsonNat s.chainId),
    ("dependencyIds", .arr (s.dependencyIds.map .str)), ("actorType", .str s.actorType.text),
    ("requiredSigner", jsonOr .str s.requiredSigner),
    ("artifactHash", jsonOr .str s.artifactHash), ("target", jsonOr .str s.target),
    ("calldataHash", jsonOr .str s.calldataHash), ("cost", jsonOr StepCost.json s.cost),
    ("reversible", .bool s.reversible), ("rollbackAction", jsonOr .str s.rollbackAction)]

def DEPLOYMENT_PLAN_VERSION : String := "contextlock.deployment-plan/v1"

/-- `planIdentity`: readiness, approval and the status of the steps are left out. -/
def planIdentity (plan : DeploymentPlan) : Json :=
  .obj [("schemaVersion", .str DEPLOYMENT_PLAN_VERSION), ("planId", .str plan.planId),
    ("manifestHash", .str plan.manifestHash),
    ("steps", .arr (plan.steps.map DeploymentStep.identity))]

def deploymentPlanHash (plan : DeploymentPlan) : String := digestOf (planIdentity plan)

/-- What of a plan does not change while it runs: everything but the status of its steps. -/
def DeploymentPlan.terms (plan : DeploymentPlan) : DeploymentPlan :=
  { plan with steps := plan.steps.map DeploymentStep.terms }

theorem deploymentPlanHash_terms (plan : DeploymentPlan) :
    deploymentPlanHash plan.terms = deploymentPlanHash plan := by
  have hs : (plan.steps.map DeploymentStep.terms).map DeploymentStep.identity =
      plan.steps.map DeploymentStep.identity := by
    rw [List.map_map]
    rfl
  unfold deploymentPlanHash planIdentity
  rw [DeploymentPlan.terms, hs]

@[simp] theorem terms_withStatus (plan : DeploymentPlan) (stepId : String)
    (status : DeploymentStepStatus) : (plan.withStatus stepId status).terms = plan.terms := by
  have hs : ∀ s : DeploymentStep,
      (if s.id = stepId then { s with status := status } else s).terms = s.terms := by
    intro s
    by_cases h : s.id = stepId
    · rw [if_pos h]
      rfl
    · rw [if_neg h]
  simp only [DeploymentPlan.terms, DeploymentPlan.withStatus, List.map_map]
  congr 1
  exact List.map_congr_left fun s _ => hs s

theorem deploymentPlanHash_approval (plan : DeploymentPlan) (approval : Option Approval) :
    deploymentPlanHash { plan with approval := approval } = deploymentPlanHash plan := rfl

theorem mem_terms_of_mem {plan : DeploymentPlan} {s : DeploymentStep} (hs : s ∈ plan.steps) :
    s.terms ∈ plan.terms.steps := List.mem_map_of_mem hs

/-! ## 4. Validation -/

def IRREVERSIBLE_STEP_TYPES : List DeploymentStepType :=
  [.DEPLOY_CONTRACT, .REGISTER_ENS_IDENTITY, .PUBLISH_RUNTIME_IMAGE, .DEPLOY_CRE_PRIVATE]

/-- The first id that was seen before. -/
def duplicateId (seen : List String) : List String → Option String
  | [] => none
  | id :: ids => if id ∈ seen then some id else duplicateId (id :: seen) ids

/-- The checks on one dependency of a step; the array order is the execution order. -/
def validateDependency (ids : List String) (s : DeploymentStep) (d : String) :
    Except DeployError Unit :=
  if d = s.id then .error (.plan "PLAN-SELF-DEPENDENCY" s.id)
  else if d ∉ ids then .error (.plan "PLAN-UNKNOWN-DEPENDENCY" (s.id ++ " -> " ++ d))
  else if ids.idxOf s.id ≤ ids.idxOf d then
    .error (.plan "PLAN-FORWARD-DEPENDENCY" (s.id ++ " (position " ++ toString (ids.idxOf s.id)
      ++ ") depends on " ++ d ++ " (position " ++ toString (ids.idxOf d)
      ++ "), which runs later or is itself"))
  else .ok ()

/-- The checks on the signer of a step and on whether it can be undone. -/
def validateAuthority (knownSignerIds : List String) (s : DeploymentStep) :
    Except DeployError Unit :=
  match s.requiredSigner.filter (· ∉ knownSignerIds) with
  | some signer =>
    .error (.plan "PLAN-UNKNOWN-SIGNER" ("step \"" ++ s.id ++ "\" requires signer \"" ++ signer
      ++ "\", which the manifest does not describe"))
  | none =>
    if s.actorType = .USER_WALLET ∧ s.requiredSigner = none then
      .error (.plan "PLAN-MISSING-SIGNER" ("step \"" ++ s.id
        ++ "\" is signed by a user wallet but names no signer"))
    else if s.type ∈ IRREVERSIBLE_STEP_TYPES ∧ s.reversible then
      .error (.plan "PLAN-DEPENDENCY-CYCLE" ("step \"" ++ s.id ++ "\" is a " ++ s.type.text
        ++ " and cannot be marked reversible"))
    else .ok ()

def validateStep (ids knownSignerIds : List String) (s : DeploymentStep) :
    Except DeployError Unit :=
  if s.type = .ACTIVATE then
    .error (.plan "PLAN-ACTIVATE-IS-NOT-DEPLOYMENT" ("step \"" ++ s.id ++ "\": activation is not"
      ++ " part of a deployment plan; it is a separate ceremony after verification"))
  else do
    s.dependencyIds.forM (validateDependency ids s)
    validateAuthority knownSignerIds s

def validatePlan (plan : DeploymentPlan) (knownSignerIds : List String) :
    Except DeployError Unit :=
  match duplicateId [] (plan.steps.map (·.id)) with
  | some id => .error (.plan "PLAN-DUPLICATE-STEP-ID" id)
  | none => plan.steps.forM (validateStep (plan.steps.map (·.id)) knownSignerIds)

/-- What the run of a valid plan rests on. -/
structure ValidSteps (plan : DeploymentPlan) : Prop where
  nodup : (plan.steps.map (·.id)).Nodup
  noActivation : ∀ s ∈ plan.steps, s.type ≠ .ACTIVATE
  backward : ∀ s ∈ plan.steps, ∀ d ∈ s.dependencyIds, d ∈ plan.steps.map (·.id) ∧
    (plan.steps.map (·.id)).idxOf d < (plan.steps.map (·.id)).idxOf s.id

theorem duplicateId_eq_none {seen ids : List String} :
    duplicateId seen ids = none ↔ ids.Nodup ∧ ∀ id ∈ ids, id ∉ seen := by
  induction ids generalizing seen with
  | nil => simp [duplicateId]
  | cons id ids ih =>
    unfold duplicateId
    by_cases h : id ∈ seen
    · simp [h]
    · rw [if_neg h, ih]
      simp only [List.nodup_cons, List.mem_cons, not_or, forall_eq_or_imp, h, not_false_eq_true,
        true_and]
      constructor
      · rintro ⟨hn, hs⟩
        exact ⟨⟨fun hm => (hs id hm).1 rfl, hn⟩, fun x hx => (hs x hx).2⟩
      · rintro ⟨⟨hid, hn⟩, hs⟩
        exact ⟨hn, fun x hx => ⟨fun he => hid (he ▸ hx), hs x hx⟩⟩

theorem forM_eq_ok {α : Type} {f : α → Except DeployError Unit} {xs : List α} :
    xs.forM f = .ok () ↔ ∀ x ∈ xs, f x = .ok () := by
  induction xs with
  | nil => simp [pure, Except.pure]
  | cons x xs ih =>
    have hcons : (x :: xs).forM f = (f x >>= fun _ => xs.forM f) := rfl
    rw [hcons]
    cases h : f x with
    | error e => simp [h, bind, Except.bind]
    | ok u => simpa [h, bind, Except.bind] using ih

theorem validateDependency_eq_ok {ids : List String} {s : DeploymentStep} {d : String} :
    validateDependency ids s d = .ok () ↔ d ≠ s.id ∧ d ∈ ids ∧ ids.idxOf d < ids.idxOf s.id := by
  simp [validateDependency, Evm.ite_error_eq_ok]

theorem validSteps_of_validatePlan {plan : DeploymentPlan} {knownSignerIds : List String}
    (h : validatePlan plan knownSignerIds = .ok ()) : ValidSteps plan := by
  unfold validatePlan at h
  split at h
  · cases h
  · rename_i hdup
    have hstep : ∀ s ∈ plan.steps, s.type ≠ .ACTIVATE ∧
        s.dependencyIds.forM (validateDependency (plan.steps.map (·.id)) s) = .ok () := by
      intro s hs
      have hv := forM_eq_ok.mp h s hs
      unfold validateStep at hv
      split at hv
      · cases hv
      · rename_i hact
        cases hd : s.dependencyIds.forM (validateDependency (plan.steps.map (·.id)) s) with
        | error e => simp [hd, bind, Except.bind] at hv
        | ok u => exact ⟨hact, rfl⟩
    refine ⟨(duplicateId_eq_none.mp hdup).1, fun s hs => (hstep s hs).1, fun s hs d hd => ?_⟩
    exact (validateDependency_eq_ok.mp (forM_eq_ok.mp (hstep s hs).2 d hd)).2

end ContextLock.Deploy
