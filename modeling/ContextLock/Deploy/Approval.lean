/-
  Subject:   The approval screen, approving a plan, and re-checking an approval.
-/
import ContextLock.Deploy.Manifest

namespace ContextLock.Deploy

open Js

/-! ## 1. Readiness -/

def READINESS_TRANSITIONS : Readiness → List Readiness
  | .PREFLIGHT_DRAFT => [.PREFLIGHT_RUNNING]
  | .PREFLIGHT_RUNNING => [.PREFLIGHT_BLOCKED, .PREFLIGHT_READY]
  | .PREFLIGHT_BLOCKED => [.PREFLIGHT_RUNNING]
  | .PREFLIGHT_READY => [.DEPLOYMENT_APPROVED, .PREFLIGHT_RUNNING]
  | .DEPLOYMENT_APPROVED => []

def assertReadinessTransition (source target : Readiness) : Except DeployError Unit :=
  if target ∈ READINESS_TRANSITIONS source then .ok ()
  else .error (.approval "APPROVAL-PLAN-NOT-READY" ("readiness cannot go " ++ source.text ++ " -> "
    ++ target.text ++ "; legal next states are ["
    ++ (if READINESS_TRANSITIONS source = [] then "none"
        else ", ".intercalate ((READINESS_TRANSITIONS source).map Readiness.text)) ++ "]"))

/-! ## 2. The screen -/

inductive Severity where
  | BLOCKER
  | WARNING
  deriving DecidableEq

structure PreflightBlocker where
  code : String
  severity : Severity

structure ScreenFunds where
  chainId : Nat
  recommendedWei : String
  balanceWei : String
  sufficient : Bool

structure ApprovalScreen where
  funds : List ScreenFunds
  blockers : List PreflightBlocker
  manifestHash : String
  planHash : String

/-- `buildApprovalScreen`: the screen carries the hashes of what it shows. -/
def buildApprovalScreen (m : DeploymentManifest) (plan : DeploymentPlan)
    (funding : List ScreenFunds) (blockers : List PreflightBlocker) : ApprovalScreen :=
  { funds := funding, blockers := blockers, manifestHash := Deploy.manifestHash m,
    planHash := deploymentPlanHash plan }

/-! ## 3. Approving -/

def FEE_QUOTE_TTL_MS : Nat := 120000

def quoteIsStale (quotedAtMs now : Nat) : Bool := quotedAtMs + FEE_QUOTE_TTL_MS < now

/-- A step whose cost was quoted too long ago. -/
def staleAt (nowMs : Nat) (s : DeploymentStep) : Bool :=
  s.cost.any fun c => quoteIsStale c.quotedAtMs nowMs

def unknownSigner (m : DeploymentManifest) (s : DeploymentStep) : Bool :=
  (truthy s.requiredSigner).any fun r => !m.requiredSigners.any (·.signerId = r)

/-- The approval that is recorded: the hashes, and every pinned artifact. -/
def approvalOf (m : DeploymentManifest) (plan : DeploymentPlan) (approvedBy : String)
    (nowMs : Nat) : Approval :=
  { approvedBy := approvedBy, approvedAtMs := nowMs, manifestHash := Deploy.manifestHash m,
    planHash := deploymentPlanHash plan, artifactHashes := Map.ofEntries (pinnedArtifacts m) }

/-- `approve`, with its checks in the order of the source. -/
def approve (m : DeploymentManifest) (plan : DeploymentPlan) (screen : ApprovalScreen)
    (approvedBy : String) (nowMs : Nat) : Except DeployError DeploymentPlan :=
  match assertReadinessTransition plan.readiness .DEPLOYMENT_APPROVED with
  | .error e => .error e
  | .ok () =>
    let hardBlockers := screen.blockers.filter (·.severity = .BLOCKER)
    if hardBlockers ≠ [] then
      .error (.approval "APPROVAL-PREFLIGHT-BLOCKED" (toString hardBlockers.length
        ++ " blocker(s) remain: " ++ ", ".intercalate (hardBlockers.map (·.code))))
    else match plan.steps.find? (staleAt nowMs) with
    | some s =>
      .error (.approval "APPROVAL-COST-ESTIMATE-STALE" ("step \"" ++ s.id ++ "\" was costed at "
        ++ toISOString (s.cost.elim 0 (·.quotedAtMs)) ++ ", which is beyond the fee-quote"
        ++ " lifetime; refresh the estimate before approving"))
    | none =>
      let short := screen.funds.filter (!·.sufficient)
      if short ≠ [] then
        .error (.approval "APPROVAL-INSUFFICIENT-BALANCE" ("; ".intercalate (short.map fun f =>
          "chain " ++ toString f.chainId ++ ": has " ++ f.balanceWei ++ " wei, needs "
            ++ f.recommendedWei ++ " wei")))
      else match plan.steps.find? (unknownSigner m) with
      | some s =>
        .error (.approval "APPROVAL-UNKNOWN-SIGNER-REQUIREMENT" ("step \"" ++ s.id
          ++ "\" needs signer \"" ++ s.requiredSigner.getD "" ++ "\""))
      | none =>
        if screen.manifestHash ≠ manifestHash m then
          .error (.approval "APPROVAL-MANIFEST-CHANGED" ("screen showed " ++ screen.manifestHash
            ++ ", manifest is " ++ manifestHash m))
        else if screen.planHash ≠ deploymentPlanHash plan then
          .error (.approval "APPROVAL-PLAN-CHANGED" ("screen showed " ++ screen.planHash
            ++ ", plan is " ++ deploymentPlanHash plan))
        else .ok { plan with
          readiness := .DEPLOYMENT_APPROVED
          approval := some (approvalOf m plan approvedBy nowMs) }

/-- What `approve` checks. -/
structure Approvable (m : DeploymentManifest) (plan : DeploymentPlan) (screen : ApprovalScreen)
    (nowMs : Nat) : Prop where
  ready : plan.readiness = .PREFLIGHT_READY
  unblocked : ∀ b ∈ screen.blockers, b.severity ≠ .BLOCKER
  fresh : ∀ s ∈ plan.steps, staleAt nowMs s = false
  funded : ∀ f ∈ screen.funds, f.sufficient = true
  signed : ∀ s ∈ plan.steps, unknownSigner m s = false
  sameManifest : screen.manifestHash = manifestHash m
  samePlan : screen.planHash = deploymentPlanHash plan

theorem assertReadinessTransition_approved {r : Readiness} :
    assertReadinessTransition r .DEPLOYMENT_APPROVED = .ok () ↔ r = .PREFLIGHT_READY := by
  unfold assertReadinessTransition
  cases r <;> simp [READINESS_TRANSITIONS]

/-- **What an approval takes and gives.** -/
theorem approve_eq_ok {m : DeploymentManifest} {plan q : DeploymentPlan} {screen : ApprovalScreen}
    {approvedBy : String} {nowMs : Nat} :
    approve m plan screen approvedBy nowMs = .ok q ↔ Approvable m plan screen nowMs ∧
      q = { plan with
        readiness := .DEPLOYMENT_APPROVED
        approval := some (approvalOf m plan approvedBy nowMs) } := by
  have hfind : ∀ (p : DeploymentStep → Bool), plan.steps.find? p = none ↔
      ∀ s ∈ plan.steps, p s = false := by
    intro p
    simp [List.find?_eq_none]
  constructor
  · intro h
    unfold approve at h
    split at h
    · cases h
    · rename_i hready
      simp only [Evm.ite_error_eq_ok, not_not, List.filter_eq_nil_iff] at h
      obtain ⟨hblock, h⟩ := h
      split at h
      · cases h
      · rename_i hfresh
        simp only [Evm.ite_error_eq_ok, not_not, List.filter_eq_nil_iff] at h
        obtain ⟨hfunds, h⟩ := h
        split at h
        · cases h
        · rename_i hsigned
          simp only [Evm.ite_error_eq_ok, not_not, Except.ok.injEq] at h
          obtain ⟨hm, hp, rfl⟩ := h
          exact ⟨⟨assertReadinessTransition_approved.mp hready, by simpa using hblock,
            (hfind _).mp hfresh, by simpa using hfunds, (hfind _).mp hsigned, hm, hp⟩, rfl⟩
  · rintro ⟨⟨hready, hblock, hfresh, hfunds, hsigned, hm, hp⟩, rfl⟩
    unfold approve
    rw [assertReadinessTransition_approved.mpr hready, (hfind _).mpr hfresh,
      (hfind _).mpr hsigned]
    have hb : screen.blockers.filter (·.severity = .BLOCKER) = [] := by
      simpa [List.filter_eq_nil_iff] using hblock
    have hf : screen.funds.filter (!·.sufficient) = [] := by
      simpa [List.filter_eq_nil_iff] using hfunds
    simp [hb, hf, hm, hp]

/-! ## 4. Re-checking an approval -/

def driftOf (now : Map String) (e : String × String) : Option String :=
  match now.get? e.1 with
  | none => some (e.1 ++ ": was pinned at approval, is absent now")
  | some cur =>
    if cur = e.2 then none else some (e.1 ++ ": approved " ++ e.2 ++ ", now " ++ cur)

/-- `approvalDrift`: what differs between the approval and the manifest as it is now. -/
def approvalDrift (plan : DeploymentPlan) (current : DeploymentManifest) : List String :=
  match plan.approval with
  | none => ["no approval is recorded for this plan"]
  | some a =>
    let mh := manifestHash current
    let now := Map.ofEntries (pinnedArtifacts current)
    (if a.manifestHash = mh then []
      else ["manifest: approved " ++ a.manifestHash ++ ", now " ++ mh])
      ++ a.artifactHashes.entries.filterMap (driftOf now)
      ++ now.entries.filterMap fun e =>
        if (a.artifactHashes.get? e.1).isSome then none
        else some (e.1 ++ ": present now (" ++ e.2 ++ ") but not part of the approval")

def assertApprovedFor (plan : DeploymentPlan) (current : DeploymentManifest) :
    Except DeployError Unit :=
  if plan.readiness ≠ .DEPLOYMENT_APPROVED ∨ plan.approval.isNone then
    .error (.approval "APPROVAL-ABSENT" ("plan " ++ plan.planId ++ " is " ++ plan.readiness.text))
  else if approvalDrift plan current ≠ [] then
    .error (.approval "DEPLOYMENT_ARTIFACT_DRIFT" ("what would be deployed is no longer what was"
      ++ " approved:\n  " ++ "\n  ".intercalate (approvalDrift plan current)))
  else .ok ()

/-- The approval is one of this manifest and of exactly the artifacts it pins. -/
structure Approval.Covers (a : Approval) (m : DeploymentManifest) : Prop where
  manifest : a.manifestHash = Deploy.manifestHash m
  pinned : ∀ e ∈ a.artifactHashes.entries,
    (Map.ofEntries (pinnedArtifacts m)).get? e.1 = some e.2
  complete : ∀ e ∈ (Map.ofEntries (pinnedArtifacts m)).entries,
    (a.artifactHashes.get? e.1).isSome = true

theorem driftOf_eq_none {now : Map String} {e : String × String} :
    driftOf now e = none ↔ now.get? e.1 = some e.2 := by
  unfold driftOf
  cases h : now.get? e.1 with
  | none => simp
  | some cur => by_cases hc : cur = e.2 <;> simp [hc]

theorem approvalDrift_eq_nil {plan : DeploymentPlan} {m : DeploymentManifest} {a : Approval}
    (h : plan.approval = some a) : approvalDrift plan m = [] ↔ a.Covers m := by
  unfold approvalDrift
  simp only [h, List.append_eq_nil_iff, List.filterMap_eq_nil_iff, driftOf_eq_none]
  constructor
  · rintro ⟨⟨hm, hp⟩, hc⟩
    refine ⟨?_, hp, fun e he => ?_⟩
    · by_contra hne
      simp only [if_neg hne, List.cons_ne_nil] at hm
    · by_contra hne
      simpa [hne] using hc e he
  · rintro ⟨hm, hp, hc⟩
    exact ⟨⟨by simp [hm], hp⟩, fun e he => by simp [hc e he]⟩

/-- **What a run may start on.** -/
theorem assertApprovedFor_eq_ok {plan : DeploymentPlan} {m : DeploymentManifest} :
    assertApprovedFor plan m = .ok () ↔
      plan.readiness = .DEPLOYMENT_APPROVED ∧ ∃ a, plan.approval = some a ∧ a.Covers m := by
  unfold assertApprovedFor
  cases ha : plan.approval with
  | none => simp
  | some a =>
    have hd := approvalDrift_eq_nil (m := m) ha
    by_cases hr : plan.readiness = .DEPLOYMENT_APPROVED
    · by_cases hn : approvalDrift plan m = []
      · simp [hr, hn, hd.mp hn]
      · have hc : ¬ a.Covers m := fun h => hn (hd.mpr h)
        simp [hr, hn, hc]
    · simp [hr]

theorem approvalOf_covers (m : DeploymentManifest) (plan : DeploymentPlan) (approvedBy : String)
    (nowMs : Nat) : (approvalOf m plan approvedBy nowMs).Covers m := by
  refine ⟨rfl, fun e he => ?_, fun e he => ?_⟩
  · exact Map.get?_of_mem _ he
  · have hget : (Map.ofEntries (pinnedArtifacts m)).get? e.1 = some e.2 := Map.get?_of_mem _ he
    show ((Map.ofEntries (pinnedArtifacts m)).get? e.1).isSome = true
    rw [hget]
    rfl

/-- The plan after the statuses of steps were written, one after the other. -/
def DeploymentPlan.withStatuses (plan : DeploymentPlan)
    (updates : List (String × DeploymentStepStatus)) : DeploymentPlan :=
  updates.foldl (fun p u => p.withStatus u.1 u.2) plan

theorem withStatuses_keeps (plan : DeploymentPlan) (updates : List (String × DeploymentStepStatus)) :
    (plan.withStatuses updates).readiness = plan.readiness ∧
      (plan.withStatuses updates).approval = plan.approval ∧
      (plan.withStatuses updates).terms = plan.terms := by
  induction updates generalizing plan with
  | nil => exact ⟨rfl, rfl, rfl⟩
  | cons u updates ih =>
    obtain ⟨hready, happroval, hterms⟩ := ih (plan.withStatus u.1 u.2)
    exact ⟨hready, happroval, hterms.trans (terms_withStatus _ _ _)⟩

/-- **An approval outlasts the run, and no other manifest.** However far the steps of an approved
    plan have come, the approval is of the plan's hash and passes the check against the manifest
    it was given for; and a manifest it passes against has the same hash and the same pinned
    artifacts. -/
theorem approval_outlasts {m : DeploymentManifest} {plan q : DeploymentPlan}
    {screen : ApprovalScreen} {approvedBy : String} {nowMs : Nat}
    (h : approve m plan screen approvedBy nowMs = .ok q)
    (updates : List (String × DeploymentStepStatus)) :
    (∃ a, (q.withStatuses updates).approval = some a ∧
      a.planHash = deploymentPlanHash (q.withStatuses updates)) ∧
    assertApprovedFor (q.withStatuses updates) m = .ok () ∧
    ∀ m', assertApprovedFor (q.withStatuses updates) m' = .ok () →
      manifestHash m' = manifestHash m ∧ ∀ path hash,
        (path, hash) ∈ (Map.ofEntries (pinnedArtifacts m')).entries ↔
          (path, hash) ∈ (Map.ofEntries (pinnedArtifacts m)).entries := by
  obtain ⟨_, rfl⟩ := approve_eq_ok.mp h
  obtain ⟨hready, happroval, hterms⟩ := withStatuses_keeps { plan with
    readiness := .DEPLOYMENT_APPROVED
    approval := some (approvalOf m plan approvedBy nowMs) } updates
  have hcovers := approvalOf_covers m plan approvedBy nowMs
  refine ⟨⟨_, happroval, ?_⟩, assertApprovedFor_eq_ok.mpr ⟨hready, _, happroval, hcovers⟩,
    fun m' h' => ?_⟩
  · rw [← deploymentPlanHash_terms, hterms, deploymentPlanHash_terms]
    rfl
  · obtain ⟨-, a, ha, hcovers'⟩ := assertApprovedFor_eq_ok.mp h'
    rw [happroval, Option.some.injEq] at ha
    subst ha
    refine ⟨hcovers'.manifest.symm, fun path hash => ⟨fun hmem => ?_, fun hmem => ?_⟩⟩
    · obtain ⟨hash', hget⟩ := Option.isSome_iff_exists.mp (hcovers'.complete _ hmem)
      obtain ⟨e, he, rfl, rfl⟩ := Map.mem_of_get? _ hget
      have hpinned := hcovers'.pinned e he
      rw [Map.get?_of_mem _ hmem, Option.some.injEq] at hpinned
      exact hpinned ▸ he
    · obtain ⟨e, he, rfl, rfl⟩ := Map.mem_of_get? _ (hcovers'.pinned _ hmem)
      exact he

end ContextLock.Deploy
