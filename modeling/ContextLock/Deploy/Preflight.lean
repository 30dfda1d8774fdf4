/-
  Subject:   The preflight run, and whether a ready one can be paid for.

  Every check adds to one list of blockers; what the checks of the CRE and of secrets add, and
  why contracts to reuse are rejected, comes from outside. Costs are added up by chain, in the
  order of the steps, and a sum becomes a funding row where the environment has the chain and
  the manifest a deployer with an address for it.
-/
import ContextLock.Deploy.Approval
import ContextLock.Js.Amount

namespace ContextLock.Deploy

open Js

/-! ## 1. Costs by chain -/

/-- What is summed up for one chain; `bps` holds each buffer once. -/
structure ChainCost where
  base : Nat
  buffer : Nat
  quotedAtMs : Nat
  live : Bool
  bps : List Nat

def MAX_SAFE_INTEGER : Nat := 2 ^ 53 - 1

def ChainCost.zero : ChainCost := ⟨0, 0, MAX_SAFE_INTEGER, true, []⟩

/-- The sum with one more step; the oldest quote governs. -/
def ChainCost.add (v : ChainCost) (c : StepCost) : ChainCost where
  base := v.base + decimalValue c.baseNativeWei
  buffer := v.buffer + decimalValue c.bufferNativeWei
  quotedAtMs := min v.quotedAtMs c.quotedAtMs
  live := v.live && c.fromLiveNode
  bps := if c.bufferBps ∈ v.bps then v.bps else v.bps ++ [c.bufferBps]

/-- `acc.get(chainId) ?? …`, changed and set again. -/
def addCost (chainId : Nat) (c : StepCost) : List (Nat × ChainCost) → List (Nat × ChainCost)
  | [] => [(chainId, ChainCost.zero.add c)]
  | e :: acc => if e.1 = chainId then (chainId, e.2.add c) :: acc else e :: addCost chainId c acc

def costStep (acc : List (Nat × ChainCost)) (s : DeploymentStep) : List (Nat × ChainCost) :=
  match s.chainId, s.cost with
  | some chainId, some c => addCost chainId c acc
  | _, _ => acc

def costsByChain (steps : List DeploymentStep) : List (Nat × ChainCost) := steps.foldl costStep []

/-! ## 2. Funding -/

structure ChainMeta where
  symbol : String
  decimals : Nat
  holder : String

structure ChainFunding where
  chainId : Nat
  symbol : String
  decimals : Nat
  baseWei : Nat
  bufferWei : Nat
  bufferBps : Option Nat
  recommendedWei : Nat
  holder : String
  balanceWei : Int
  sufficient : Bool
  shortfallWei : Int
  quotedAtMs : Nat
  fromLiveNode : Bool

def fundingRow (chainId : Nat) (v : ChainCost) (found : ChainMeta) (balance : Int) :
    ChainFunding where
  chainId := chainId
  symbol := found.symbol
  decimals := found.decimals
  baseWei := v.base
  bufferWei := v.buffer
  bufferBps := if v.bps.length = 1 then v.bps.head? else none
  recommendedWei := v.base + v.buffer
  holder := found.holder
  balanceWei := balance
  sufficient := ((v.base + v.buffer : Nat) : Int) ≤ balance
  shortfallWei := if ((v.base + v.buffer : Nat) : Int) ≤ balance then 0
    else (v.base + v.buffer : Nat) - balance
  quotedAtMs := v.quotedAtMs
  fromLiveNode := v.live

def aggregateByChain (steps : List DeploymentStep) (chainMeta : Nat → Option ChainMeta)
    (balances : Nat → Option Int) : List ChainFunding :=
  ((costsByChain steps).filterMap fun e =>
    (chainMeta e.1).map fun found => fundingRow e.1 e.2 found ((balances e.1).getD 0)).mergeSort
      fun f g => f.chainId ≤ g.chainId

/-- The address of the first deployer of a chain, where it is given. -/
def gasHolder (m : DeploymentManifest) (chainId : Nat) : Option String :=
  truthy ((m.requiredSigners.find? fun s => s.role = .DEPLOYER ∧ chainId ∈ s.chainIds).bind
    (·.address))

/-- `chainMeta.get(chainId)`; where the environment has a chain twice, the last one is set. -/
def chainMeta (m : DeploymentManifest) (chainId : Nat) : Option ChainMeta :=
  (m.environment.chains.filterMap fun c =>
    (gasHolder m c.chainId).map fun holder =>
      (c.chainId, (⟨c.nativeSymbol, c.nativeDecimals, holder⟩ : ChainMeta))).reverse.lookup chainId

/-! ## 3. The run -/

def WRITING_STEP_TYPES : List DeploymentStepType :=
  [.DEPLOY_CONTRACT, .CONFIGURE_CONTRACT, .REGISTER_POLICY_DISABLED, .REGISTER_ENS_IDENTITY]

def assertCosted (plan : DeploymentPlan) : Except DeployError Unit :=
  plan.steps.forM fun s =>
    if s.type ∈ WRITING_STEP_TYPES ∧ s.cost = none then
      .error (.plan "PLAN-MISSING-COST" ("step \"" ++ s.id ++ "\" (" ++ s.type.text
        ++ ") writes onchain but has no gas estimate; it cannot be approved"))
    else .ok ()

structure PreflightInput where
  manifest : DeploymentManifest
  plan : DeploymentPlan
  /-- The configured readers, each with the answer of its `getChainId`. -/
  readers : List (Nat × Except String Nat)
  /-- The balance of the gas holder of each chain, where it was read. -/
  balances : Nat → Option Int
  /-- The reasons of the contracts that `resolveReuse` rejected. -/
  rejected : List String
  /-- What the checks of the CRE and of secrets add. -/
  creChecks : List PreflightBlocker
  secretChecks : List PreflightBlocker
  nowMs : Nat

structure PreflightResult where
  readiness : Readiness
  blockers : List PreflightBlocker
  funding : List ChainFunding
  screen : ApprovalScreen
  manifestHash : String

def blocker (code : String) : PreflightBlocker := ⟨code, .BLOCKER⟩

def warning (code : String) : PreflightBlocker := ⟨code, .WARNING⟩

/-- `err.reason`. -/
def DeployError.code : DeployError → String
  | .network reason => guardCode reason
  | .environment reason _ => reason
  | e => e.message

def blockedBy (check : Except DeployError Unit) (code : DeployError → String) :
    List PreflightBlocker :=
  match check with
  | .error e => [blocker (code e)]
  | .ok _ => []

/-- Steps that write to a chain they may not write to. -/
def writeChecks (env : DeploymentEnvironment) (plan : DeploymentPlan) : List PreflightBlocker :=
  plan.steps.flatMap fun s =>
    match s.chainId with
    | some chainId =>
      if s.type ∈ WRITING_STEP_TYPES then
        blockedBy (assertWriteAllowed env chainId) DeployError.code
      else []
    | none => []

/-- Readers that answer for another chain, or not at all. -/
def identityChecks (readers : List (Nat × Except String Nat)) : List PreflightBlocker :=
  readers.flatMap fun r =>
    match r.2 with
    | .ok observed => if observed = r.1 then [] else [blocker "ENV-CHAIN-ID-MISMATCH"]
    | .error _ => [blocker "PREFLIGHT-RPC-UNREACHABLE"]

def fundingChecks (nowMs : Nat) (f : ChainFunding) : List PreflightBlocker :=
  (if f.sufficient then [] else [blocker "COST-INSUFFICIENT-BALANCE"])
    ++ (if quoteIsStale f.quotedAtMs nowMs then [blocker "COST-QUOTE-STALE"] else [])
    ++ if f.fromLiveNode then [] else [warning "COST-NOT-LIVE"]

def PreflightInput.funding (input : PreflightInput) : List ChainFunding :=
  aggregateByChain input.plan.steps (chainMeta input.manifest) input.balances

/-- The blockers, in the order of the source. -/
def PreflightInput.blockers (input : PreflightInput) : List PreflightBlocker :=
  writeChecks input.manifest.environment input.plan
    ++ identityChecks input.readers
    ++ blockedBy (validatePlan input.plan (input.manifest.requiredSigners.map (·.signerId)))
      (fun _ => "PLAN-INVALID")
    ++ blockedBy (assertCosted input.plan) (fun _ => "PLAN-MISSING-COST")
    ++ input.rejected.map blocker
    ++ input.funding.flatMap (fundingChecks input.nowMs)
    ++ input.creChecks
    ++ input.secretChecks

def runPreflight (input : PreflightInput) : PreflightResult where
  readiness := if input.blockers.any (·.severity = .BLOCKER) then .PREFLIGHT_BLOCKED
    else .PREFLIGHT_READY
  blockers := input.blockers
  funding := input.funding
  screen := buildApprovalScreen input.manifest input.plan
    (input.funding.map fun f =>
      ⟨f.chainId, toString f.recommendedWei, toString f.balanceWei, f.sufficient⟩)
    input.blockers
  manifestHash := Deploy.manifestHash input.manifest

/-! ## 4. What a chain costs -/

def chainCosts (steps : List DeploymentStep) (chainId : Nat) : List StepCost :=
  steps.filterMap fun s => if s.chainId = some chainId then s.cost else none

def neededWei (plan : DeploymentPlan) (chainId : Nat) : Nat :=
  ((chainCosts plan.steps chainId).map fun c =>
    decimalValue c.baseNativeWei + decimalValue c.bufferNativeWei).sum

def CostsGas (plan : DeploymentPlan) (chainId : Nat) : Prop :=
  ∃ s ∈ plan.steps, s.chainId = some chainId ∧ s.cost ≠ none

/-- **What a ready preflight is to say**: each chain that costs gas has a row with a balance that
    covers it, and each quote is fresh. -/
structure Paid (input : PreflightInput) (result : PreflightResult) : Prop where
  funded : ∀ chainId, CostsGas input.plan chainId → ∃ f ∈ result.funding, f.chainId = chainId ∧
    f.balanceWei = (input.balances chainId).getD 0 ∧
    (neededWei input.plan chainId : Int) ≤ f.balanceWei
  fresh : ∀ s ∈ input.plan.steps, s.chainId ≠ none → staleAt input.nowMs s = false

/-- The environment has the chain, and its first deployer an address. -/
structure HasPayer (m : DeploymentManifest) (chainId : Nat) : Prop where
  listed : ∃ c ∈ m.environment.chains, c.chainId = chainId
  holder : gasHolder m chainId ≠ none

section Costs

variable {steps : List DeploymentStep} {chainId : Nat}

/-- A sum that may not have begun, with more steps. -/
def addedTo (o : Option ChainCost) (cs : List StepCost) : Option ChainCost :=
  cs.foldl (fun o c => some ((o.getD .zero).add c)) o

theorem lookup_cons_ite {α : Type} (e : Nat × α) (acc : List (Nat × α)) :
    (e :: acc).lookup chainId = if chainId = e.1 then some e.2 else acc.lookup chainId := by
  rw [List.lookup_cons]
  by_cases h : chainId = e.1
  · rw [if_pos h, beq_iff_eq.mpr h]
  · rw [if_neg h, beq_eq_false_iff_ne.mpr h]

theorem lookup_addCost (k : Nat) (c : StepCost) (acc : List (Nat × ChainCost)) :
    (addCost k c acc).lookup chainId =
      if chainId = k then some (((acc.lookup chainId).getD .zero).add c)
      else acc.lookup chainId := by
  induction acc with
  | nil => exact lookup_cons_ite (k, ChainCost.zero.add c) []
  | cons e acc ih =>
    unfold addCost
    by_cases he : e.1 = k
    · rw [if_pos he, lookup_cons_ite, lookup_cons_ite, he]
      split <;> rfl
    · rw [if_neg he, lookup_cons_ite, lookup_cons_ite, ih]
      by_cases h : chainId = e.1
      · have hk : chainId ≠ k := fun heq => he (h.symm.trans heq)
        rw [if_pos h, if_neg hk, if_pos h]
      · rw [if_neg h, if_neg h]

theorem lookup_costStep (acc : List (Nat × ChainCost)) (s : DeploymentStep) :
    (costStep acc s).lookup chainId = addedTo (acc.lookup chainId) (chainCosts [s] chainId) := by
  unfold costStep
  cases hchain : s.chainId with
  | none => simp [chainCosts, addedTo, hchain]
  | some k =>
    cases hcost : s.cost with
    | none => simp [chainCosts, addedTo, hcost]
    | some c =>
      show (addCost k c acc).lookup chainId = _
      rw [lookup_addCost]
      by_cases h : chainId = k
      · simp [chainCosts, addedTo, hchain, hcost, h]
      · have hne : k ≠ chainId := fun heq => h heq.symm
        simp [chainCosts, addedTo, hchain, h, hne]

theorem lookup_foldl_costStep (steps : List DeploymentStep) (acc : List (Nat × ChainCost)) :
    (steps.foldl costStep acc).lookup chainId =
      addedTo (acc.lookup chainId) (chainCosts steps chainId) := by
  induction steps generalizing acc with
  | nil => rfl
  | cons s steps ih =>
    have hsplit : chainCosts (s :: steps) chainId =
        chainCosts [s] chainId ++ chainCosts steps chainId := by
      unfold chainCosts
      rw [← List.filterMap_append, List.singleton_append]
    rw [List.foldl_cons, ih, lookup_costStep, hsplit]
    unfold addedTo
    rw [List.foldl_append]

/-- **The sum of a chain is that of its steps.** -/
theorem lookup_costsByChain (steps : List DeploymentStep) :
    (costsByChain steps).lookup chainId = addedTo none (chainCosts steps chainId) :=
  lookup_foldl_costStep steps []

/-- What a sum of steps comes to. -/
structure SumOf (v : ChainCost) (cs : List StepCost) (v' : ChainCost) : Prop where
  total : v'.base + v'.buffer = v.base + v.buffer + (cs.map fun c =>
    decimalValue c.baseNativeWei + decimalValue c.bufferNativeWei).sum
  oldest : v'.quotedAtMs ≤ v.quotedAtMs
  quotes : ∀ c ∈ cs, v'.quotedAtMs ≤ c.quotedAtMs

theorem addedTo_some (cs : List StepCost) (v : ChainCost) :
    ∃ v', addedTo (some v) cs = some v' ∧ SumOf v cs v' := by
  induction cs generalizing v with
  | nil => exact ⟨v, rfl, by simp, le_rfl, fun c hc => absurd hc List.not_mem_nil⟩
  | cons c cs ih =>
    obtain ⟨v', hv', htotal, holdest, hquotes⟩ := ih (v.add c)
    have hmin : (v.add c).quotedAtMs = min v.quotedAtMs c.quotedAtMs := rfl
    refine ⟨v', hv', ?_, ?_, fun x hx => ?_⟩
    · rw [htotal, List.map_cons, List.sum_cons]
      show v.base + decimalValue c.baseNativeWei + (v.buffer + decimalValue c.bufferNativeWei)
        + _ = _
      omega
    · omega
    · rcases List.mem_cons.mp hx with rfl | hx
      · omega
      · exact hquotes x hx

theorem mem_chainCosts {c : StepCost} :
    c ∈ chainCosts steps chainId ↔ ∃ s ∈ steps, s.chainId = some chainId ∧ s.cost = some c := by
  unfold chainCosts
  rw [List.mem_filterMap]
  refine exists_congr fun s => and_congr_right fun _ => ?_
  by_cases h : s.chainId = some chainId <;> simp [h]

/-- **A chain that costs gas has a sum**: that of its steps, with the oldest of their quotes. -/
theorem exists_sum {plan : DeploymentPlan} (h : CostsGas plan chainId) :
    ∃ v, (chainId, v) ∈ costsByChain plan.steps ∧ v.base + v.buffer = neededWei plan chainId ∧
      ∀ c ∈ chainCosts plan.steps chainId, v.quotedAtMs ≤ c.quotedAtMs := by
  obtain ⟨s, hs, hchain, hcost⟩ := h
  obtain ⟨c, hc⟩ := Option.ne_none_iff_exists'.mp hcost
  have hmem : c ∈ chainCosts plan.steps chainId := mem_chainCosts.mpr ⟨s, hs, hchain, hc⟩
  obtain ⟨first, rest, hcosts⟩ := List.exists_cons_of_ne_nil (List.ne_nil_of_mem hmem)
  obtain ⟨v, hv, htotal, -, hquotes⟩ := addedTo_some rest (ChainCost.zero.add first)
  have hlookup : (costsByChain plan.steps).lookup chainId = some v := by
    rw [lookup_costsByChain, hcosts]
    exact hv
  have holdest : v.quotedAtMs ≤ first.quotedAtMs := by
    have hmin : (ChainCost.zero.add first).quotedAtMs = min MAX_SAFE_INTEGER first.quotedAtMs := rfl
    have := (addedTo_some rest (ChainCost.zero.add first))
    obtain ⟨v', hv', -, hle, -⟩ := this
    obtain rfl : v = v' := Option.some.inj (hv.symm.trans hv')
    omega
  refine ⟨v, ?_, ?_, fun x hx => ?_⟩
  · obtain ⟨before, after, hsplit, -⟩ := List.lookup_eq_some_iff.mp hlookup
    rw [hsplit]
    exact List.mem_append_right _ List.mem_cons_self
  · unfold neededWei
    rw [htotal, hcosts, List.map_cons, List.sum_cons]
    show 0 + decimalValue first.baseNativeWei + (0 + decimalValue first.bufferNativeWei) + _ = _
    omega
  · rw [hcosts] at hx
    rcases List.mem_cons.mp hx with rfl | hx
    · exact holdest
    · exact hquotes x hx

end Costs

/-! ## 5. A ready preflight -/

section Ready

variable {input : PreflightInput} {m : DeploymentManifest} {chainId : Nat}

theorem chainMeta_isSome_iff : (∃ found, chainMeta m chainId = some found) ↔ HasPayer m chainId := by
  unfold chainMeta
  constructor
  · rintro ⟨found, h⟩
    obtain ⟨before, after, hsplit, -⟩ := List.lookup_eq_some_iff.mp h
    have hmem : (chainId, found) ∈ (m.environment.chains.filterMap fun c =>
        (gasHolder m c.chainId).map fun holder =>
          (c.chainId, (⟨c.nativeSymbol, c.nativeDecimals, holder⟩ : ChainMeta))) := by
      rw [← List.mem_reverse, hsplit]
      exact List.mem_append_right _ List.mem_cons_self
    obtain ⟨c, hc, hfound⟩ := List.mem_filterMap.mp hmem
    obtain ⟨holder, hholder, heq⟩ := Option.map_eq_some_iff.mp hfound
    obtain ⟨rfl, -⟩ := Prod.mk.inj heq
    exact ⟨⟨c, hc, rfl⟩, by rw [hholder]; exact Option.some_ne_none holder⟩
  · rintro ⟨⟨c, hc, rfl⟩, hholder⟩
    obtain ⟨holder, hh⟩ := Option.ne_none_iff_exists'.mp hholder
    rw [← Option.ne_none_iff_exists']
    intro hnone
    have hmem : (c.chainId, (⟨c.nativeSymbol, c.nativeDecimals, holder⟩ : ChainMeta)) ∈
        m.environment.chains.filterMap fun c => (gasHolder m c.chainId).map fun holder =>
          (c.chainId, ⟨c.nativeSymbol, c.nativeDecimals, holder⟩) :=
      List.mem_filterMap.mpr ⟨c, hc, by rw [hh]; rfl⟩
    have hne := List.lookup_eq_none_iff.mp hnone _ (List.mem_reverse.mpr hmem)
    exact bne_iff_ne.mp hne rfl

theorem no_blocker (h : (runPreflight input).readiness = .PREFLIGHT_READY) :
    ∀ b ∈ input.blockers, b.severity ≠ .BLOCKER := by
  intro b hb hsev
  have hany : input.blockers.any (·.severity = .BLOCKER) = true :=
    List.any_eq_true.mpr ⟨b, hb, decide_eq_true hsev⟩
  simp [runPreflight, hany] at h

theorem ready_row (h : (runPreflight input).readiness = .PREFLIGHT_READY) {f : ChainFunding}
    (hf : f ∈ input.funding) :
    f.sufficient = true ∧ quoteIsStale f.quotedAtMs input.nowMs = false := by
  have hin : ∀ b ∈ fundingChecks input.nowMs f, b.severity ≠ .BLOCKER := by
    intro b hb
    refine no_blocker h b ?_
    have hmem : b ∈ input.funding.flatMap (fundingChecks input.nowMs) :=
      List.mem_flatMap.mpr ⟨f, hf, hb⟩
    simp only [PreflightInput.blockers, List.mem_append]
    tauto
  constructor
  · by_contra hs
    refine hin (blocker "COST-INSUFFICIENT-BALANCE") ?_ rfl
    simp [fundingChecks, hs]
  · refine eq_false_of_ne_true fun hs => ?_
    refine hin (blocker "COST-QUOTE-STALE") ?_ rfl
    simp [fundingChecks, hs]

theorem mem_funding {f : ChainFunding} : f ∈ input.funding ↔
    ∃ e ∈ costsByChain input.plan.steps, ∃ found, chainMeta input.manifest e.1 = some found ∧
      fundingRow e.1 e.2 found ((input.balances e.1).getD 0) = f := by
  unfold PreflightInput.funding aggregateByChain
  rw [List.mem_mergeSort, List.mem_filterMap]
  refine exists_congr fun e => and_congr_right fun _ => ?_
  exact Option.map_eq_some_iff

/-- **When a ready preflight covers every chain that costs gas**: exactly when each has a payer. -/
theorem ready_paid_iff (h : (runPreflight input).readiness = .PREFLIGHT_READY) :
    Paid input (runPreflight input) ↔
      ∀ chainId, CostsGas input.plan chainId → HasPayer input.manifest chainId := by
  constructor
  · intro hpaid chainId hcosts
    obtain ⟨f, hf, rfl, -⟩ := hpaid.funded chainId hcosts
    obtain ⟨e, -, found, hfound, rfl⟩ := mem_funding.mp hf
    exact chainMeta_isSome_iff.mp ⟨found, hfound⟩
  · intro hpayers
    have hrow : ∀ chainId, CostsGas input.plan chainId → ∃ v found,
        v.base + v.buffer = neededWei input.plan chainId ∧
        (∀ c ∈ chainCosts input.plan.steps chainId, v.quotedAtMs ≤ c.quotedAtMs) ∧
        fundingRow chainId v found ((input.balances chainId).getD 0) ∈ input.funding := by
      intro chainId hcosts
      obtain ⟨v, hv, htotal, hquotes⟩ := exists_sum hcosts
      obtain ⟨found, hfound⟩ := chainMeta_isSome_iff.mpr (hpayers chainId hcosts)
      exact ⟨v, found, htotal, hquotes, mem_funding.mpr ⟨(chainId, v), hv, found, hfound, rfl⟩⟩
    refine ⟨fun chainId hcosts => ?_, fun s hs hchain => ?_⟩
    · obtain ⟨v, found, htotal, -, hf⟩ := hrow chainId hcosts
      refine ⟨_, hf, rfl, rfl, ?_⟩
      have hsufficient := (ready_row h hf).1
      rw [← htotal]
      exact of_decide_eq_true hsufficient
    · unfold staleAt
      cases hcost : s.cost with
      | none => rfl
      | some c =>
        obtain ⟨chainId, hid⟩ := Option.ne_none_iff_exists'.mp hchain
        have hcosts : CostsGas input.plan chainId := ⟨s, hs, hid, by rw [hcost]; exact nofun⟩
        obtain ⟨v, found, -, hquotes, hf⟩ := hrow chainId hcosts
        have hle := hquotes c (mem_chainCosts.mpr ⟨s, hs, hid, hcost⟩)
        have hfresh : quoteIsStale v.quotedAtMs input.nowMs = false := (ready_row h hf).2
        have hbound : ¬ v.quotedAtMs + FEE_QUOTE_TTL_MS < input.nowMs := of_decide_eq_false hfresh
        exact decide_eq_false (by omega)

end Ready

/-! ## 6. A deployment of one contract -/

/-- The manifest of one contract on Sepolia, whose deployer has the address `holder`. -/
def oneContract (holder : Option String) : DeploymentManifest where
  manifestId := "m1"
  projectId := "p1"
  buildId := "b1"
  blueprintRevision := 1
  buildRevision := 1
  strategyHash := "0x01"
  organizationHash := none
  gitCommit := "c0ffee"
  environment :=
    ⟨"env-1", .TESTNET, [⟨11155111, "Sepolia", none, "ETH", 18, none⟩], true, ["private"]⟩
  contracts := []
  ens := []
  creWorkflows := []
  runtimeImages := []
  adapters := []
  authorizationModel := .SINGLE_EOA
  requiredSigners := [⟨"deployer", .DEPLOYER, holder, .BROWSER_WALLET, [11155111], "deploys"⟩]
  requiredBalances := []
  generatedAt := "2025-01-01T00:00:00.000Z"

/-- Its only step, which costs 21000 wei with a buffer of 2100. -/
def deployStep : DeploymentStep where
  id := "deploy"
  type := .DEPLOY_CONTRACT
  chainId := some 11155111
  dependencyIds := []
  actorType := .USER_WALLET
  requiredSigner := some "deployer"
  artifactHash := none
  target := none
  calldataHash := none
  cost := some ⟨"21000", .LEGACY, "1", none, "21000", 1000, "2100", "23100", 1000, true⟩
  reversible := false
  rollbackAction := none
  status := .PENDING

/-- The preflight of that deployment, two seconds after the quote. -/
def oneContractRun (holder : Option String) (balance : Option Int) : PreflightInput where
  manifest := oneContract holder
  plan := ⟨"plan-1", manifestHash (oneContract holder), [deployStep], .PREFLIGHT_RUNNING, none⟩
  readers := [(11155111, .ok 11155111)]
  balances := fun chainId => if chainId = 11155111 then balance else none
  rejected := []
  creChecks := []
  secretChecks := []
  nowMs := 3000

theorem costs_deployStep {holder : Option String} {balance : Option Int} :
    CostsGas (oneContractRun holder balance).plan 11155111 :=
  ⟨deployStep, List.mem_cons_self, rfl, nofun⟩

theorem ready_of_blockers {input : PreflightInput} (h : input.blockers = []) :
    (runPreflight input).readiness = .PREFLIGHT_READY := by
  unfold runPreflight
  rw [h]
  rfl

/-- **A ready preflight without one funding row**: the deployer has no address yet, and the
    chain, which costs gas, is left out of the funding. -/
theorem ready_unpaid :
    (runPreflight (oneContractRun none none)).readiness = .PREFLIGHT_READY
      ∧ ¬ Paid (oneContractRun none none) (runPreflight (oneContractRun none none)) := by
  have hrows : (oneContractRun none none).funding = [] := by
    show List.mergeSort [] _ = []
    exact List.mergeSort_nil
  constructor
  · refine ready_of_blockers ?_
    unfold PreflightInput.blockers
    rw [hrows]
    decide
  · intro hpaid
    obtain ⟨f, hf, -⟩ := hpaid.funded 11155111 costs_deployStep
    have hnil : f ∈ (oneContractRun none none).funding := hf
    rw [hrows] at hnil
    cases hnil

/-- With an address and a balance of 50000 wei, the same deployment is paid for. -/
theorem ready_paid_funded :
    Paid (oneContractRun (some "0xd0") (some 50000))
      (runPreflight (oneContractRun (some "0xd0") (some 50000))) := by
  have hrows : (oneContractRun (some "0xd0") (some 50000)).funding =
      [⟨11155111, "ETH", 18, 21000, 2100, some 1000, 23100, "0xd0", 50000, true, 0, 1000, true⟩] := by
    show List.mergeSort [_] _ = _
    exact List.mergeSort_singleton _
  refine (ready_paid_iff (ready_of_blockers ?_)).mpr fun chainId hcosts => ?_
  · unfold PreflightInput.blockers
    rw [hrows]
    decide
  · obtain ⟨s, hs, hchain, -⟩ := hcosts
    obtain rfl := List.mem_singleton.mp hs
    obtain rfl := Option.some.inj hchain
    exact ⟨⟨_, List.mem_cons_self, rfl⟩, by decide⟩

end ContextLock.Deploy
