/-
  Subject:   The deployment state machine and the phase each step type belongs to.
-/
import Mathlib.Data.List.Sort
import ContextLock.Deploy.Plan

namespace ContextLock.Orchestrator

open Js Deploy

/-! ## 1. States -/

inductive DeploymentState where
  | DEPLOYMENT_APPROVED
  | DEPLOYING_CHAIN_COMPONENTS
  | CONFIGURING_POLICY_DISABLED
  | DEPLOYING_CRE
  | PAUSING_OR_CONFIRMING_CRE_STATE
  | BUILDING_RUNTIME_IMAGE
  | VERIFYING_DEPLOYMENT
  | READY_TO_ACTIVATE
  | DEPLOYMENT_PAUSED_USER
  | DEPLOYMENT_PAUSED_SIGNER
  | DEPLOYMENT_PAUSED_CRE_AUTH
  | DEPLOYMENT_PARTIAL
  | DEPLOYMENT_FAILED_RECOVERABLE
  | DEPLOYMENT_FAILED_TERMINAL
  deriving DecidableEq

def DeploymentState.text : DeploymentState → String
  | DEPLOYMENT_APPROVED => "DEPLOYMENT_APPROVED"
  | DEPLOYING_CHAIN_COMPONENTS => "DEPLOYING_CHAIN_COMPONENTS"
  | CONFIGURING_POLICY_DISABLED => "CONFIGURING_POLICY_DISABLED"
  | DEPLOYING_CRE => "DEPLOYING_CRE"
  | PAUSING_OR_CONFIRMING_CRE_STATE => "PAUSING_OR_CONFIRMING_CRE_STATE"
  | BUILDING_RUNTIME_IMAGE => "BUILDING_RUNTIME_IMAGE"
  | VERIFYING_DEPLOYMENT => "VERIFYING_DEPLOYMENT"
  | READY_TO_ACTIVATE => "READY_TO_ACTIVATE"
  | DEPLOYMENT_PAUSED_USER => "DEPLOYMENT_PAUSED_USER"
  | DEPLOYMENT_PAUSED_SIGNER => "DEPLOYMENT_PAUSED_SIGNER"
  | DEPLOYMENT_PAUSED_CRE_AUTH => "DEPLOYMENT_PAUSED_CRE_AUTH"
  | DEPLOYMENT_PARTIAL => "DEPLOYMENT_PARTIAL"
  | DEPLOYMENT_FAILED_RECOVERABLE => "DEPLOYMENT_FAILED_RECOVERABLE"
  | DEPLOYMENT_FAILED_TERMINAL => "DEPLOYMENT_FAILED_TERMINAL"

def RESUMABLE_STATES : List DeploymentState :=
  [.DEPLOYMENT_APPROVED, .DEPLOYING_CHAIN_COMPONENTS, .CONFIGURING_POLICY_DISABLED, .DEPLOYING_CRE,
   .PAUSING_OR_CONFIRMING_CRE_STATE, .BUILDING_RUNTIME_IMAGE, .VERIFYING_DEPLOYMENT,
   .DEPLOYMENT_PAUSED_USER, .DEPLOYMENT_PAUSED_SIGNER, .DEPLOYMENT_PAUSED_CRE_AUTH,
   .DEPLOYMENT_FAILED_RECOVERABLE, .DEPLOYMENT_PARTIAL]

def HAPPY_PATH : List DeploymentState :=
  [.DEPLOYMENT_APPROVED, .DEPLOYING_CHAIN_COMPONENTS, .CONFIGURING_POLICY_DISABLED, .DEPLOYING_CRE,
   .PAUSING_OR_CONFIRMING_CRE_STATE, .BUILDING_RUNTIME_IMAGE, .VERIFYING_DEPLOYMENT,
   .READY_TO_ACTIVATE]

def PAUSES : List DeploymentState :=
  [.DEPLOYMENT_PAUSED_USER, .DEPLOYMENT_PAUSED_SIGNER, .DEPLOYMENT_PAUSED_CRE_AUTH,
   .DEPLOYMENT_FAILED_RECOVERABLE, .DEPLOYMENT_PARTIAL]

/-! ## 2. Transitions -/

/-- `DEPLOYMENT_TRANSITIONS`: forward to any later phase, to a pause or to the terminal
    failure; from a pause back into any phase of work. -/
def DEPLOYMENT_TRANSITIONS (s : DeploymentState) : List DeploymentState :=
  if s ∈ HAPPY_PATH then
    ((HAPPY_PATH.dropWhile (· ≠ s)).drop 1).filter
        (fun t => t ≠ .READY_TO_ACTIVATE ∨ s = .VERIFYING_DEPLOYMENT)
      ++ (if s = .READY_TO_ACTIVATE then [] else PAUSES ++ [.DEPLOYMENT_FAILED_TERMINAL])
  else if s ∈ PAUSES then
    HAPPY_PATH.filter (· ≠ .READY_TO_ACTIVATE) ++ [.DEPLOYMENT_FAILED_TERMINAL]
      ++ PAUSES.filter (· ≠ s)
  else []

def assertTransition (source target : DeploymentState) : Except DeployError Unit :=
  if target ∈ DEPLOYMENT_TRANSITIONS source then .ok ()
  else
    let legal := ((DEPLOYMENT_TRANSITIONS source).map DeploymentState.text).insertionSort
      fun a b => textLe a b
    .error (.machine "DEPLOY-ILLEGAL-TRANSITION" (source.text ++ " -> " ++ target.text
      ++ " is not a legal deployment transition; from " ++ source.text ++ " the legal next states"
      ++ " are [" ++ (if legal = [] then "none — this state is terminal"
        else ", ".intercalate legal) ++ "]"))

theorem assertTransition_ok {source target : DeploymentState} :
    assertTransition source target = .ok () ↔ target ∈ DEPLOYMENT_TRANSITIONS source := by
  unfold assertTransition
  by_cases h : target ∈ DEPLOYMENT_TRANSITIONS source <;> simp [h]

/-! ## 3. Phases -/

def phaseFor : DeploymentStepType → Except DeployError DeploymentState
  | .VERIFY_CHAIN | .VERIFY_CORE | .DEPLOY_CONTRACT => .ok .DEPLOYING_CHAIN_COMPONENTS
  | .CONFIGURE_CONTRACT | .REGISTER_POLICY_DISABLED | .REGISTER_ENS_IDENTITY =>
    .ok .CONFIGURING_POLICY_DISABLED
  | .CHECK_CRE_ACCESS | .BUILD_CRE_WASM | .VERIFY_CRE_HASH | .DEPLOY_CRE_PRIVATE =>
    .ok .DEPLOYING_CRE
  | .PAUSE_CRE => .ok .PAUSING_OR_CONFIRMING_CRE_STATE
  | .BUILD_RUNTIME_IMAGE | .SCAN_RUNTIME_IMAGE | .PUBLISH_RUNTIME_IMAGE
  | .CREATE_RUNTIME_DISABLED => .ok .BUILDING_RUNTIME_IMAGE
  | .POST_DEPLOY_VERIFY => .ok .VERIFYING_DEPLOYMENT
  | .ACTIVATE =>
    .error (.machine "DEPLOY-ILLEGAL-TRANSITION" "no phase is defined for step type \"ACTIVATE\"")

end ContextLock.Orchestrator
