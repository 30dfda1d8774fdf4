/-
  Subject:   The guard in front of every step of an execution plan.
-/
import ContextLock.Network.Fences
import ContextLock.Plan.Hash

namespace ContextLock.Plan

open Js

/-! ## 1. The guard -/

/-- `PlanError`: its reason, and the details it names. -/
inductive PlanError where
  | UNKNOWN_STEP (stepId : String)
  | STEP_NOT_PENDING (stepId : String) (status : PlanStepStatus)
  | DEPENDENCY_NOT_SATISFIED (stepId : String) (missing : List String)
  | TIMED_OUT (stepId : String) (timeoutMs : Int)
  | DENIED (stepId : String)
  | UNKNOWN_VALUE (stepId : String)
  | HUMAN_APPROVAL_REQUIRED (stepId : String)
  | STEP_NOT_AUTHORIZED (stepId : String)
  | SCOPE_MISMATCH (stepId expected presented : String)
  | PLAN_MUTATED (stepId expected presented currentPlanHash : String)

/-- What the guard throws: its own refusal, that of the write fence, or an error of hashing. -/
inductive Refusal where
  | plan (e : PlanError)
  | fence (reason : Network.ApprovedNetworkReason)
  | hash (text : String)

def stepOf (p : ExecutionPlan) (stepId : String) : Except PlanError PlanStep :=
  match findStep p stepId with
  | none => .error (.UNKNOWN_STEP stepId)
  | some step => .ok step

def confirmed (p : ExecutionPlan) (stepId : String) : Bool :=
  match findStep p stepId with
  | none => false
  | some step => step.status = .CONFIRMED

/-- `dependenciesSatisfied`: the dependencies of a step that are not confirmed. -/
def missingDependencies (p : ExecutionPlan) (step : PlanStep) : List String :=
  step.dependencies.filter fun d => !confirmed p d

/-- The scope as minted at approval time, and whether a human approved. -/
structure StepAuthorization where
  capabilityScope : String
  humanApproved : Bool

/-- One of these steps, but for the one named, has the scope `presented`. -/
def forAnotherStep (p : ExecutionPlan) (stepId presented : String) :
    List PlanStep → Except String Bool
  | [] => .ok false
  | s :: steps =>
    if s.stepId = stepId then forAnotherStep p stepId presented steps
    else
      match capabilityScopeFor p s.stepId with
      | .error e => .error e
      | .ok scope =>
        if scope = presented then .ok true else forAnotherStep p stepId presented steps

/-- The last check: the presented scope is the one of the current plan. -/
def assertScope (p : ExecutionPlan) (stepId presented : String) : Except Refusal Unit :=
  match capabilityScopeFor p stepId with
  | .error e => .error (.hash e)
  | .ok expected =>
    if presented = expected then .ok ()
    else
      match forAnotherStep p stepId presented p.steps with
      | .error e => .error (.hash e)
      | .ok true => .error (.plan (.SCOPE_MISMATCH stepId expected presented))
      | .ok false =>
        match planHash p with
        | .error e => .error (.hash e)
        | .ok hash => .error (.plan (.PLAN_MUTATED stepId expected presented hash))

def assertStepExecutable (p : ExecutionPlan) (stepId : String) (auth : StepAuthorization)
    (nowMs startedAtMs : Int) : Except Refusal Unit :=
  match stepOf p stepId with
  | .error e => .error (.plan e)
  | .ok step =>
    match Network.fenceWriteByChain step.chainId with
    | .error reason => .error (.fence reason)
    | .ok _ =>
      if step.status ≠ .PENDING ∧ step.status ≠ .AUTHORIZED then
        .error (.plan (.STEP_NOT_PENDING stepId step.status))
      else if missingDependencies p step ≠ [] then
        .error (.plan (.DEPENDENCY_NOT_SATISFIED stepId (missingDependencies p step)))
      else if nowMs - startedAtMs > step.timeoutMs then
        .error (.plan (.TIMED_OUT stepId step.timeoutMs))
      else if step.authorizationRequirement.disposition = .DENY then
        .error (.plan (.DENIED stepId))
      else if step.authorizationRequirement.valueUsdCents = none then
        .error (.plan (.UNKNOWN_VALUE stepId))
      else if step.authorizationRequirement.disposition = .REQUIRES_HUMAN
          ∧ auth.humanApproved = false then
        .error (.plan (.HUMAN_APPROVAL_REQUIRED stepId))
      else if auth.capabilityScope = "" then .error (.plan (.STEP_NOT_AUTHORIZED stepId))
      else assertScope p stepId auth.capabilityScope

/-! ## 2. What a step that may run has passed -/

/-- Every check of the guard but the one on time and the one on the scope. -/
structure Executable (p : ExecutionPlan) (stepId : String) (humanApproved : Bool) (step : PlanStep) :
    Prop where
  found : findStep p stepId = some step
  approved : ∃ network, Network.fenceWriteByChain step.chainId = .ok network
  pending : step.status = .PENDING ∨ step.status = .AUTHORIZED
  dependencies : ∀ d ∈ step.dependencies, ∃ dep, findStep p d = some dep ∧ dep.status = .CONFIRMED
  notDenied : step.authorizationRequirement.disposition ≠ .DENY
  valueKnown : step.authorizationRequirement.valueUsdCents ≠ none
  human : step.authorizationRequirement.disposition = .REQUIRES_HUMAN → humanApproved = true

theorem confirmed_iff {p : ExecutionPlan} {d : String} :
    confirmed p d = true ↔ ∃ dep, findStep p d = some dep ∧ dep.status = .CONFIRMED := by
  unfold confirmed
  cases h : findStep p d with
  | none => simp
  | some dep => simp

theorem assertScope_ok {p : ExecutionPlan} {stepId presented : String}
    (h : assertScope p stepId presented = .ok ()) :
    capabilityScopeFor p stepId = .ok presented := by
  unfold assertScope at h
  cases hscope : capabilityScopeFor p stepId with
  | error e =>
    rw [hscope] at h
    cases h
  | ok expected =>
    rw [hscope] at h
    by_cases heq : presented = expected
    · rw [heq]
    · simp only [if_neg heq] at h
      cases hother : forAnotherStep p stepId presented p.steps with
      | error e =>
        rw [hother] at h
        cases h
      | ok other =>
        rw [hother] at h
        cases other with
        | true => cases h
        | false =>
          cases hhash : planHash p with
          | error e | ok hash =>
            rw [hhash] at h
            cases h

/-- **What the guard accepts** passed all its checks. -/
theorem assertStepExecutable_ok {p : ExecutionPlan} {stepId : String} {auth : StepAuthorization}
    {nowMs startedAtMs : Int}
    (h : assertStepExecutable p stepId auth nowMs startedAtMs = .ok ()) :
    (∃ step, Executable p stepId auth.humanApproved step) ∧
      capabilityScopeFor p stepId = .ok auth.capabilityScope := by
  unfold assertStepExecutable stepOf at h
  cases hstep : findStep p stepId with
  | none =>
    rw [hstep] at h
    cases h
  | some step =>
    rw [hstep] at h
    cases hfence : Network.fenceWriteByChain step.chainId with
    | error reason =>
      simp only [hfence] at h
      cases h
    | ok network =>
      simp only [hfence, Evm.ite_error_eq_ok] at h
      obtain ⟨hstatus, hmissing, _, hdeny, hvalue, hhuman, _, hscope⟩ := h
      refine ⟨⟨step, hstep, ⟨network, hfence⟩, ?_, ?_, hdeny, hvalue, ?_⟩, assertScope_ok hscope⟩
      · by_contra hnot
        exact hstatus (not_or.mp hnot)
      · intro d hd
        refine confirmed_iff.mp ?_
        have hnone := List.filter_eq_nil_iff.mp (not_not.mp hmissing) d hd
        simpa using hnone
      · intro hrequires
        by_contra hnot
        exact hhuman ⟨hrequires, Bool.eq_false_iff.mpr hnot⟩

/-! ## 3. Scopes do not transfer -/

/-- **A scope does not transfer.** The guard accepts the scope of a step of a plan only for this
    step, in plans that agree on everything the hash covers; and then only where every
    dependency is confirmed, the verdict is no denial, the value is known and a human approved
    where one has to. The hash must not collide on the texts of the two plans, nor on those of
    the two steps. -/
theorem scope_not_transferable {p q : ExecutionPlan} {a b scope : String} {humanApproved : Bool}
    {nowMs startedAtMs : Int}
    (hplans : ∀ s t, planText p = .ok s → planText q = .ok t →
      Evm.NoCollision (Evm.textBytes s) (Evm.textBytes t))
    (hsteps : ∀ s t, stepText p a = .ok s → stepText q b = .ok t →
      Evm.NoCollision (Evm.textBytes s) (Evm.textBytes t))
    (hminted : capabilityScopeFor p a = .ok scope)
    (haccepted : assertStepExecutable q b ⟨scope, humanApproved⟩ nowMs startedAtMs = .ok ()) :
    a = b ∧ PlanAgrees p q ∧ ∃ step, Executable q b humanApproved step := by
  obtain ⟨hexecutable, hscope⟩ := assertStepExecutable_ok haccepted
  obtain ⟨hstep, hagrees⟩ := capabilityScopeFor_inj hplans hsteps hminted hscope
  exact ⟨hstep, hagrees, hexecutable⟩

def withdrawStep : PlanStep where
  stepId := "withdraw"
  chainId := 11155111
  adapterId := "vault"
  adapterVersion := "1.0.0"
  action := "withdraw"
  normalizedIntent := [("asset", .str "USDC"), ("amount", .str "500000000")]
  dependencies := []
  preconditions := []
  expectedEffects := []
  timeoutMs := 60000
  authorizationRequirement := ⟨.AUTONOMOUS, some 50000, none⟩
  status := .CONFIRMED

/-- A payment that waits for the withdrawal and for a human. -/
def payStep : PlanStep where
  stepId := "pay"
  chainId := 84532
  adapterId := "payments"
  adapterVersion := "1.0.0"
  action := "pay"
  normalizedIntent := [("to", .str "treasury"), ("memo", .undefined)]
  dependencies := ["withdraw"]
  preconditions := [⟨.STEP_CONFIRMED, some (some "withdraw"), none, none, none⟩]
  expectedEffects := [⟨.TOKEN_OUT, 84532, some (some "USDC"), some (some "500000000"), none⟩]
  timeoutMs := 60000
  authorizationRequirement := ⟨.REQUIRES_HUMAN, some 50000, none⟩
  status := .PENDING

def payoutPlan : ExecutionPlan where
  planId := "payout"
  revision := 1
  strategyId := "payouts"
  organizationId := none
  sourceChainId := 11155111
  steps := [withdrawStep, payStep]
  invariants := [⟨"value", "Nothing is paid that was not withdrawn."⟩]
  timeoutPolicy := ⟨120000, 60000⟩
  failurePolicy := ⟨.HOLD_AND_ESCALATE, 0, false⟩
  completionPolicy := ⟨["withdraw", "pay"]⟩
  state := .STEP_PENDING

theorem payoutPlan_text : ∃ text, planText payoutPlan = .ok text := by
  have hok : (planText payoutPlan).isOk = true := by decide
  cases h : planText payoutPlan with
  | error e =>
    rw [h] at hok
    cases hok
  | ok text => exact ⟨text, rfl⟩

/-- The payment runs with the scope minted for it and an approval. -/
theorem scope_not_transferable_payout : ∃ scope, capabilityScopeFor payoutPlan "pay" = .ok scope ∧
    "pay" = "pay" ∧ PlanAgrees payoutPlan payoutPlan ∧
      ∃ step, Executable payoutPlan "pay" true step := by
  obtain ⟨text, htext⟩ := payoutPlan_text
  have hstep : findStep payoutPlan "pay" = some payStep := by
    simp [findStep, payoutPlan, withdrawStep, payStep]
  obtain ⟨scope, hscope⟩ := exists_scope htext hstep
  have hplans : ∀ s t, planText payoutPlan = .ok s → planText payoutPlan = .ok t →
      Evm.NoCollision (Evm.textBytes s) (Evm.textBytes t) := by
    intro s t hs ht _
    rw [Except.ok.inj (hs.symm.trans ht)]
  have hsteps : ∀ s t, stepText payoutPlan "pay" = .ok s → stepText payoutPlan "pay" = .ok t →
      Evm.NoCollision (Evm.textBytes s) (Evm.textBytes t) := by
    intro s t hs ht _
    rw [Except.ok.inj (hs.symm.trans ht)]
  have haccepted : assertStepExecutable payoutPlan "pay" ⟨scope, true⟩ 1000 0 = .ok () := by
    have hne : scope ≠ "" := by
      obtain ⟨t, front, _, rfl⟩ := capabilityScopeFor_ok hscope
      intro hnil
      have hlength := congrArg (fun s => s.toList.length) hnil
      rw [String.toList_append, List.length_append, length_hashText] at hlength
      simp at hlength
    have hfence : ∃ network, Network.fenceWriteByChain payStep.chainId = .ok network :=
      ⟨⟨84532, .TESTNET_EXECUTION⟩, by decide⟩
    have hmissing : missingDependencies payoutPlan payStep = [] := by
      simp [missingDependencies, confirmed, findStep, payoutPlan, withdrawStep, payStep]
    obtain ⟨network, hfence⟩ := hfence
    unfold assertStepExecutable stepOf
    rw [hstep]
    simp only [hfence, hmissing]
    rw [if_neg (by decide), if_neg (by simp), if_neg (by decide), if_neg (by decide),
      if_neg (by decide), if_neg (by decide), if_neg hne, assertScope, hscope]
    simp only [if_true]
  exact ⟨scope, hscope, scope_not_transferable hplans hsteps hscope haccepted⟩

end ContextLock.Plan
