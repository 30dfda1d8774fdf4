/-
  Subject:   Runs of one approved plan.

  The check of the approval compares hashes of whole documents. A process that is not lost
  keeps the terms of its plan, so a check that passed once passes at every later call, and a
  run can be followed past the check.
-/
import ContextLock.Orchestrator.System
import ContextLock.Orchestrator.Frames

namespace ContextLock.Orchestrator

open Js Deploy Machine

/-! ## 1. The terms of the plan in a run -/

/-- The plan of the process has the terms `t`, whatever it is answered. -/
def KeptTerms (t : DeploymentPlan) (d : Deployment) : Prop :=
  d.process.Keeps DeploymentRun.terms (fun _ => True) t

theorem KeptTerms.state {t : DeploymentPlan} {d : Deployment} (h : KeptTerms t d) :
    d.process.state.plan.terms = t := by
  obtain ⟨p, w⟩ := d
  cases p with
  | ok a s => exact h
  | threw e s => exact h
  | call s e k => exact h.1

/-- **Every move but the loading of a run keeps the terms of the plan.** -/
theorem keptTerms_step {t : DeploymentPlan} {d d' : Deployment} {a : Move} (h : KeptTerms t d)
    (ha : ∀ run, a ≠ .reload run) (hs : step d a = some d') : KeptTerms t d' := by
  cases a with
  | begin deps polls manifest maxSteps =>
    simp only [step] at hs
    split at hs
    · obtain rfl := Option.some.inj hs
      have hkeeps := runToCompletion_terms deps polls manifest maxSteps d.process.state
      rw [show d.process.state.terms = t from h.state] at hkeeps
      exact hkeeps
    · cases hs
  | answer reply =>
    obtain ⟨s, e, k, r, hp, _, _, rfl⟩ := answered_eq_some hs
    obtain ⟨p, w⟩ := d
    obtain rfl : p = .call s e k := hp
    exact h.2.2 r
  | broadcast hash =>
    obtain ⟨w', _, rfl⟩ := Option.map_eq_some_iff.mp hs
    exact h
  | chain ledger =>
    simp only [step] at hs
    split at hs
    · obtain rfl := Option.some.inj hs
      exact h
    · cases hs
  | reload run => exact absurd rfl (ha run)

/-! ## 2. Past the check -/

/-- The moves, with `runToCompletion` past the check of the approval. -/
def stepApproved (d : Deployment) : Move → Option Deployment
  | .begin deps polls manifest maxSteps =>
    if d.process.ended ∧ d.process.state.state ∈ RESUMABLE_STATES then
      some { d with process := runApproved deps polls manifest maxSteps d.process.state }
    else none
  | a => step d a

/-- No run is loaded, and every call is made with a manifest that `t` is approved for. -/
def Move.approvedFor (t : DeploymentPlan) : Move → Prop
  | .begin _ _ manifest _ => assertApprovedFor t manifest = .ok ()
  | .reload _ => False
  | _ => True

theorem assertApprovedFor_terms (plan : DeploymentPlan) (m : DeploymentManifest) :
    assertApprovedFor plan.terms m = assertApprovedFor plan m := rfl

theorem step_of_stepApproved {t : DeploymentPlan} {d d' : Deployment} {a : Move}
    (h : KeptTerms t d) (ha : a.approvedFor t) (hs : stepApproved d a = some d') :
    step d a = some d' := by
  cases a with
  | begin deps polls manifest maxSteps =>
    simp only [stepApproved] at hs
    split at hs
    · rename_i hc
      obtain rfl := Option.some.inj hs
      have happroved : assertApprovedFor d.process.state.plan manifest = .ok () := by
        rw [← assertApprovedFor_terms, h.state]
        exact ha
      simp only [step, if_pos hc.1, runToCompletion_of_approved hc.2 happroved]
    · cases hs
  | reload run => exact ha.elim
  | answer reply => exact hs
  | broadcast hash => exact hs
  | chain ledger => exact hs

/-- **A run followed past the check is a run of the system**, and meets what its moves meet. -/
theorem execute_approved {guard guard' : Deployment → Move → Prop} [∀ d a, Decidable (guard d a)]
    [∀ d a, Decidable (guard' d a)] {t : DeploymentPlan}
    (hguard : ∀ d a, KeptTerms t d → guard' d a → guard d a) {d d' : Deployment}
    {moves : List Move} (h : KeptTerms t d) (hm : ∀ a ∈ moves, a.approvedFor t)
    (he : execute (guarded stepApproved guard') d moves = some d') :
    execute (guarded step guard) d moves = some d' := by
  refine execute_of_agrees (I := KeptTerms t) (A := Move.approvedFor t) ?_ h hm he
  intro d a d' hd ha hs
  obtain ⟨hg, hs⟩ := guarded_eq_some.mp hs
  have hstep := step_of_stepApproved hd ha hs
  have hreload : ∀ run, a ≠ .reload run := by
    rintro run rfl
    exact ha
  exact ⟨guarded_eq_some.mpr ⟨hguard d a hd hg, hstep⟩, keptTerms_step hd hreload hstep⟩

/-! ## 3. A deployment of one contract -/

def deployerAddress : String := "0x00000000000000000000000000000000000000d1"

/-- A manifest for a test network, with one signer. -/
def consumerManifest : DeploymentManifest :=
  { manifestId := "dm", projectId := "p", buildId := "b", blueprintRevision := 0,
    buildRevision := 0, strategyHash := "sha256:00", organizationHash := none,
    gitCommit := "0000000",
    environment := {
      environmentId := "testnet", kind := .TESTNET,
      chains := [⟨11155111, "Sepolia", none, "ETH", 18, none⟩], writesPermitted := true,
      allowedCreRegistries := [] },
    contracts := [], ens := [], creWorkflows := [], runtimeImages := [], adapters := [],
    authorizationModel := .SINGLE_EOA,
    requiredSigners := [⟨"deployer", .DEPLOYER, some deployerAddress, .LOCAL_BRIDGE_WALLET,
      [11155111], "deploying"⟩],
    requiredBalances := [], generatedAt := "now" }

def consumerStep : DeploymentStep :=
  { id := "deploy-consumer", type := .DEPLOY_CONTRACT, chainId := some 11155111,
    dependencyIds := [], actorType := .USER_WALLET, requiredSigner := some "deployer",
    artifactHash := none, target := none, calldataHash := none, cost := none, reversible := false,
    rollbackAction := none, status := .PENDING }

/-- A step that observes, of the given type. -/
def observation (id : String) (type : DeploymentStepType) : DeploymentStep :=
  { id, type, chainId := none, dependencyIds := [], actorType := .READ_ONLY,
    requiredSigner := none, artifactHash := none, target := none, calldataHash := none,
    cost := none, reversible := true, rollbackAction := none, status := .PENDING }

/-- An approved plan with the given steps. -/
def planOf (steps : List DeploymentStep) : DeploymentPlan :=
  let plan : DeploymentPlan :=
    { planId := "dp", manifestHash := manifestHash consumerManifest, steps,
      readiness := .DEPLOYMENT_APPROVED, approval := none }
  { plan with approval := some (Deploy.approvalOf consumerManifest plan "ops" 1) }

theorem planOf_approved (steps : List DeploymentStep) :
    assertApprovedFor (planOf steps) consumerManifest = .ok () :=
  assertApprovedFor_eq_ok.mpr ⟨rfl, _, rfl, approvalOf_covers _ _ _ _⟩

theorem planOf_unedited (steps : List DeploymentStep) :
    ∀ a, (planOf steps).approval = some a → a.planHash = deploymentPlanHash (planOf steps) := by
  rintro a ha
  obtain rfl := Option.some.inj ha
  rfl

/-- Outside parties that answer every call alike. -/
structure Answers where
  count : Nat := 0
  receipt : Except DeployError (Option Receipt) := .error (.rpc .TIMEOUT "timed out")
  sent : Except DeployError String := .error (.other "User rejected the request.")
  seen : Bool := false

def Answers.reply (x : Answers) : (e : Effect) → Option (Reply e)
  | .nowMs => some 1
  | .sleep _ => some ()
  | .getTransactionCount _ _ _ => some (.ok x.count)
  | .getTransactionReceipt _ _ => some x.receipt
  | .getBlockNumber _ => some (.ok 9)
  | .resolveCalldata _ _ => some (.ok ⟨none, "0x6000", 0⟩)
  | .sendTransaction _ _ => some x.sent
  | .observe _ _ _ => some (.ok ⟨x.seen, "looked", none⟩)
  | _ => none

/-- `n` answers, one after another. -/
def Answers.times (x : Answers) (n : Nat) : List Move := List.replicate n (.answer x.reply)

/-- The move of a call of `runToCompletion` for the manifest. -/
def beginConsumer : Move := .begin ⟨[11155111], none, none⟩ 3 consumerManifest 100

def consumerStart (steps : List DeploymentStep) : Deployment :=
  start (newRun "deployment" (planOf steps)) fun _ _ => 5

theorem keptTerms_consumerStart (steps : List DeploymentStep) :
    KeptTerms (planOf steps).terms (consumerStart steps) := rfl

end ContextLock.Orchestrator
