/-
  Subject:   The policies derived from a Blueprint, and what they permit.

  The attack lab and the fork evaluate requests under a policy that is derived from the Blueprint:
  its two global limits and the kinds of its actions. The references of the autonomous policy and
  the per-action limits are not read.
-/
import ContextLock.Lab.Report
import ContextLock.Lab.Validator
import ContextLock.Policy.Limits

namespace ContextLock.Lab

open Js Policy

/-! ## 1. The derived policies -/

/-- US cents in the six decimals of the policy engine. -/
def usd6 (cents : Nat) : Int := cents * 10000

def autoCents (m : Maybe Nat) : Nat := m.value?.getD 0

def capCents (auto cap : Maybe Nat) : Nat := cap.value?.getD (autoCents auto)

def aavePool : String := "0x6Ae43d3271ff6888e7Fc43Fd7321a503ff738951"

def policyFromBlueprint (bp : Blueprint) : PrivatePolicy where
  policyId := "contextlock-lab-policy"
  policyVersion := .int bp.revision
  enabled := true
  autoLimit := usd6 (autoCents bp.autonomousPolicy.maxValueUsdCents)
  escalationLimit :=
    usd6 (capCents bp.autonomousPolicy.maxValueUsdCents bp.escalationPolicy.maxValueUsdCents)
  maxSlippageBps := .int 100
  maxVolatilityBps := .int 3000
  minLiquidity := 1000000
  targetEthAllocationBps := .int 4500
  rebalanceDriftBps := .int 500
  minHealthFactorBps := .int 13500
  targetHealthFactorBps := .int 16000
  proprietaryRiskThreshold := .int 42
  canary := "CONTEXTLOCK_LAB_CANARY"
  allowedActionKinds := bp.actions.map Action.kind
  allowedTargets := [aavePool]
  authorizedAgentIdentityHashes := [Plan.hashText bp.identity.agentId]

/-- `ACTION_KINDS.approve`. -/
def approveKind : String := "ERC20_APPROVE"

structure ScenarioDriver where
  actionKind : String
  targets : List String

def mainnetUsdc : String := "0xA0b86991c6218b36c1d19D4a2e9Eb0cE3606eB48"

def SCENARIO_DRIVERS : List ScenarioDriver :=
  [⟨"AAVE_REPAY", ["0x87870Bca3F3fD6335C3F4ce8392D69350B4fA4E2", mainnetUsdc]⟩,
   ⟨"COMPOUND_REPAY", ["0xc3d688B66703497DAA19211EEdff47f25384cdc3", mainnetUsdc]⟩,
   ⟨"MORPHO_REPAY", ["0xBBBBBbbBBb9cC5e90e3b3Af64bdAF62C37EEFFCb", mainnetUsdc]⟩,
   ⟨"LIDO_STAKE", ["0xae7ab96520DE3A18E5e111B5EaAb095312D7fE84"]⟩,
   ⟨"TOKEN_SWAP", ["0x68b3465833fb72A70ecDF485E0e4C7bD8665Fc45", mainnetUsdc,
     "0xC02aaA39b223FE8D0A0e5C4F27eAD9083C756Cc2"]⟩]

def driversFor (actionKinds : List String) : List ScenarioDriver :=
  SCENARIO_DRIVERS.filter fun d => d.actionKind ∈ actionKinds

/-- The number of a policy. -/
def bpsOf : Js.Num → Int
  | .int n => n
  | _ => 0

def forkPolicyFor (bp : Blueprint) : ForkPolicy :=
  let p := policyFromBlueprint bp
  { policyId := p.policyId
    policyVersion := bpsOf p.policyVersion
    autoLimit := toString p.autoLimit
    escalationLimit := toString p.escalationLimit
    minHealthFactorBps := bpsOf p.minHealthFactorBps
    targetHealthFactorBps := bpsOf p.targetHealthFactorBps
    restoreHealthFactorBps := bpsOf p.targetHealthFactorBps + 500
    allowedActionKinds := (bp.actions.map Action.kind ++ [approveKind]).eraseDups
    allowedTargets := ((driversFor (bp.actions.map Action.kind)).flatMap
      ScenarioDriver.targets).eraseDups
    maxValueHardCapWei := "5000000000000000000" }

/-- The derived policy with the action kinds of the fork's; the limits of the fork's policy are
    the texts of its own. -/
def underFork (bp : Blueprint) : PrivatePolicy :=
  { policyFromBlueprint bp with allowedActionKinds := (forkPolicyFor bp).allowedActionKinds }

/-! ## 2. What the Blueprint grants -/

/-- The Blueprint lets an action of this kind run at this amount with no human involved. -/
def Autonomous (bp : Blueprint) (kind : String) (amount : Int) : Prop :=
  amount ≤ usd6 (autoCents bp.autonomousPolicy.maxValueUsdCents) ∧
    ∃ a ∈ bp.actions, a.kind = kind ∧ a.id ∈ bp.autonomousPolicy.allowedActionRefs ∧
      ∀ l ∈ bp.perActionLimits, l.actionRef = a.id →
        amount ≤ usd6 (autoCents l.autonomousMaxUsdCents)

/-- The Blueprint lets a human be asked for an action of this kind at this amount. -/
def Escalatable (bp : Blueprint) (kind : String) (amount : Int) : Prop :=
  amount ≤ usd6 (capCents bp.autonomousPolicy.maxValueUsdCents
      bp.escalationPolicy.maxValueUsdCents) ∧
    ∃ a ∈ bp.actions, a.kind = kind ∧ ∀ l ∈ bp.perActionLimits, l.actionRef = a.id →
      amount ≤ usd6 (capCents l.autonomousMaxUsdCents l.escalationMaxUsdCents)

/-- What a policy permits, the Blueprint grants. -/
structure Refines (bp : Blueprint) (policy : PrivatePolicy) : Prop where
  allow : ∀ req ctx nowUnix, (evaluatePolicy req policy ctx nowUnix).verdict = .allow →
    Autonomous bp req.actionKind req.decodedAmount
  escalate : ∀ req ctx nowUnix, (evaluatePolicy req policy ctx nowUnix).verdict = .escalate →
    Escalatable bp req.actionKind req.decodedAmount

/-- The second Blueprint knows what the first one does, and possibly limits the first does not. -/
structure Resolves (bp bp' : Blueprint) : Prop where
  rest : { bp with
    autonomousPolicy :=
      { bp.autonomousPolicy with maxValueUsdCents := bp'.autonomousPolicy.maxValueUsdCents }
    escalationPolicy := bp'.escalationPolicy
    perActionLimits := bp'.perActionLimits } = bp'
  autonomous : ∀ v, bp.autonomousPolicy.maxValueUsdCents.value? = some v →
    bp'.autonomousPolicy.maxValueUsdCents.value? = some v
  escalation : ∀ v, bp.escalationPolicy.maxValueUsdCents.value? = some v →
    bp'.escalationPolicy.maxValueUsdCents.value? = some v

/-- **An unknown limit never permits more than a known one**: what a policy permits, it permits
    under every buildable Blueprint that knows more. Amounts are decoded from calldata. -/
def UnknownIsStricter (policyOf : Blueprint → PrivatePolicy) (bp : Blueprint) : Prop :=
  ∀ bp', Resolves bp bp' → (validateBlueprint bp').buildable = true →
    ∀ req ctx nowUnix, 0 ≤ req.decodedAmount →
      ((evaluatePolicy req (policyOf bp) ctx nowUnix).verdict = .allow →
        (evaluatePolicy req (policyOf bp') ctx nowUnix).verdict = .allow) ∧
      ((evaluatePolicy req (policyOf bp) ctx nowUnix).verdict ≠ .deny →
        (evaluatePolicy req (policyOf bp') ctx nowUnix).verdict ≠ .deny)

/-- The kind is one of an autonomous action without tighter limits of its own. -/
def Covered (bp : Blueprint) (kind : String) : Prop :=
  (∃ a ∈ bp.actions, a.kind = kind ∧ a.id ∈ bp.autonomousPolicy.allowedActionRefs ∧
    ∀ l ∈ bp.perActionLimits, l.actionRef = a.id →
      autoCents bp.autonomousPolicy.maxValueUsdCents ≤ autoCents l.autonomousMaxUsdCents) ∧
  ∃ a ∈ bp.actions, a.kind = kind ∧ ∀ l ∈ bp.perActionLimits, l.actionRef = a.id →
    capCents bp.autonomousPolicy.maxValueUsdCents bp.escalationPolicy.maxValueUsdCents
      ≤ capCents l.autonomousMaxUsdCents l.escalationMaxUsdCents

/-! ## 3. The limits of the derived policies -/

theorem usd6_le {a b : Nat} : usd6 a ≤ usd6 b ↔ a ≤ b := by
  unfold usd6
  omega

def withKinds (bp : Blueprint) (kinds : List String) : PrivatePolicy :=
  { policyFromBlueprint bp with allowedActionKinds := kinds }

theorem auto_le_cap {bp : Blueprint} (h : (validateBlueprint bp).buildable = true) :
    autoCents bp.autonomousPolicy.maxValueUsdCents
      ≤ capCents bp.autonomousPolicy.maxValueUsdCents bp.escalationPolicy.maxValueUsdCents := by
  unfold capCents
  cases hcap : bp.escalationPolicy.maxValueUsdCents.value? with
  | none => exact le_refl _
  | some cap =>
    rw [Option.getD_some]
    unfold autoCents
    cases hauto : bp.autonomousPolicy.maxValueUsdCents.value? with
    | none => exact Nat.zero_le _
    | some auto => exact (escalation_above_autonomous h hauto hcap).le

/-- A request of the Blueprint's agent under its policy. -/
def ownRequest (bp : Blueprint) (kind : String) (amount : Int) : EvaluationRequest where
  requestHash := ""
  agentIdentityHash := Plan.hashText bp.identity.agentId
  ensNode := ""
  agent := ""
  chainId := .int 11155111
  target := aavePool
  value := 0
  calldataHash := ""
  selector := ""
  decodedRecipient := ""
  decodedAmount := amount
  intentHash := ""
  policyId := "contextlock-lab-policy"
  policyVersion := .int bp.revision
  actionKind := kind

def market (volatility : Int) : MarketContext where
  observedAtUnix := .int 0
  slippageBps := .int 0
  volatilityBps := .int volatility
  liquidity := 1000000
  healthFactorBps := .int 0

/-- The market decides about a request of an allowed kind. -/
theorem evaluatePolicy_own {bp : Blueprint} {kinds : List String} {kind : String}
    (hkind : kind ∈ kinds) (amount : Int) {volatility : Int} (hvolatility : 0 ≤ volatility) :
    evaluatePolicy (ownRequest bp kind amount) (withKinds bp kinds) (market volatility) 0
      = evaluateMarket (ownRequest bp kind amount) (withKinds bp kinds) (market volatility) 0
          volatility := by
  have hshape : ¬ ((0 : Int) < 0 ∨ volatility < 0 ∨ (1000000 : Int) < 0 ∨ (0 : Int) < 0) := by
    omega
  have hage : ¬ ((0 : Int) - 0 > MAX_CONTEXT_AGE_SECONDS ∨ (0 : Int) > 0 + 30) := by decide
  have hagent : ([Plan.hashText bp.identity.agentId].map toLowerCase).contains
      (toLowerCase (Plan.hashText bp.identity.agentId)) = true := by simp
  have hkinds : kinds.contains kind = true := List.contains_iff_mem.mpr hkind
  have htarget : ([aavePool].map toLowerCase).contains (toLowerCase aavePool) = true := by simp
  have hversion : (Js.Num.int bp.revision).strictEq (.int bp.revision) = true := by
    simp [Js.Num.strictEq]
  unfold evaluatePolicy withKinds policyFromBlueprint ownRequest market
  simp only [not_true_eq_false, if_false]
  rw [if_neg hshape, if_neg hage, if_neg (not_not.mpr hagent), if_neg (not_not.mpr hkinds),
    if_neg (not_not.mpr htarget), if_neg (by simp [hversion])]

/-- **Every autonomous amount is allowed**, in a calm market. -/
theorem evaluatePolicy_allows {bp : Blueprint} {kinds : List String} {kind : String}
    (h : (validateBlueprint bp).buildable = true) (hkind : kind ∈ kinds) :
    (evaluatePolicy
      (ownRequest bp kind (usd6 (autoCents bp.autonomousPolicy.maxValueUsdCents)))
      (withKinds bp kinds) (market 0) 0).verdict = .allow := by
  have hle := usd6_le.mpr (auto_le_cap h)
  have hrisk : (0 * 3 + 0 : Int).fdiv 4
      + (usd6 (autoCents bp.autonomousPolicy.maxValueUsdCents)).tdiv
        (if usd6 (autoCents bp.autonomousPolicy.maxValueUsdCents) > 0 then
          usd6 (autoCents bp.autonomousPolicy.maxValueUsdCents) else 1) * 10 ≤ 42 := by
    split
    · rename_i hpos
      rw [Int.tdiv_self (by omega)]
      decide
    · rename_i hzero
      have hnonneg : 0 ≤ usd6 (autoCents bp.autonomousPolicy.maxValueUsdCents) := by
        unfold usd6
        omega
      have heq : usd6 (autoCents bp.autonomousPolicy.maxValueUsdCents) = 0 := by omega
      rw [heq]
      decide
  rw [evaluatePolicy_own hkind _ (le_refl 0), evaluateMarket_allow, evaluateMarket_ne_deny]
  refine ⟨⟨hle, le_refl _, rfl⟩, rfl, rfl, le_refl _, ?_⟩
  show decide ((42 : Int) < _) = false
  exact decide_eq_false (not_lt.mpr hrisk)

/-- **Every amount within the escalation limit is escalated**, in a volatile market. -/
theorem evaluatePolicy_escalates {bp : Blueprint} {kinds : List String} {kind : String}
    (hkind : kind ∈ kinds) :
    (evaluatePolicy
      (ownRequest bp kind (usd6 (capCents bp.autonomousPolicy.maxValueUsdCents
        bp.escalationPolicy.maxValueUsdCents)))
      (withKinds bp kinds) (market 3001) 0).verdict = .escalate := by
  rw [evaluatePolicy_own hkind _ (by decide)]
  have hvolatile :
      (withKinds bp kinds).maxVolatilityBps.lt (market 3001).volatilityBps = true := rfl
  refine verdict_eq_escalate (evaluateMarket_ne_deny.mpr ⟨le_refl _, le_refl _, rfl⟩) ?_
  exact fun hallow =>
    absurd (hvolatile.symm.trans (evaluateMarket_allow.mp hallow).2.1) (by decide)

/-! ## 4. Refinement -/

theorem refines_of_covered {bp : Blueprint} {kinds : List String}
    (hcovered : ∀ kind ∈ kinds, Covered bp kind) : Refines bp (withKinds bp kinds) where
  allow := by
    intro req ctx nowUnix h
    have hamount : req.decodedAmount
        ≤ usd6 (autoCents bp.autonomousPolicy.maxValueUsdCents) := evaluatePolicy_autonomous h
    have hkind : req.actionKind ∈ kinds :=
      (evaluatePolicy_within (fun hdeny => by rw [h] at hdeny; cases hdeny)).1
    obtain ⟨⟨a, ha, hsame, href, hlimits⟩, _⟩ := hcovered _ hkind
    refine ⟨hamount, a, ha, hsame, href, fun l hl hl' => ?_⟩
    exact hamount.trans (usd6_le.mpr (hlimits l hl hl'))
  escalate := by
    intro req ctx nowUnix h
    obtain ⟨hkind, hamount⟩ :=
      evaluatePolicy_within (fun hdeny => by rw [h] at hdeny; cases hdeny)
    obtain ⟨_, a, ha, hsame, hlimits⟩ := hcovered _ hkind
    refine ⟨hamount, a, ha, hsame, fun l hl hl' => ?_⟩
    exact hamount.trans (usd6_le.mpr (hlimits l hl hl'))

theorem covered_of_refines {bp : Blueprint} {kinds : List String}
    (h : (validateBlueprint bp).buildable = true) (hrefines : Refines bp (withKinds bp kinds)) :
    ∀ kind ∈ kinds, Covered bp kind := by
  intro kind hkind
  obtain ⟨_, a, ha, hsame, href, hlimits⟩ := hrefines.allow _ _ _ (evaluatePolicy_allows h hkind)
  obtain ⟨_, b, hb, hsame', hlimits'⟩ := hrefines.escalate _ _ _ (evaluatePolicy_escalates hkind)
  exact ⟨⟨a, ha, hsame, href, fun l hl hl' => usd6_le.mp (hlimits l hl hl')⟩,
    b, hb, hsame', fun l hl hl' => usd6_le.mp (hlimits' l hl hl')⟩

/-- The limits of a Blueprint that knows more are no lower. -/
theorem limits_le {bp bp' : Blueprint} (h : Resolves bp bp')
    (hbuildable : (validateBlueprint bp').buildable = true) :
    autoCents bp.autonomousPolicy.maxValueUsdCents
        ≤ autoCents bp'.autonomousPolicy.maxValueUsdCents ∧
      capCents bp.autonomousPolicy.maxValueUsdCents bp.escalationPolicy.maxValueUsdCents
        ≤ capCents bp'.autonomousPolicy.maxValueUsdCents
            bp'.escalationPolicy.maxValueUsdCents := by
  have hauto : autoCents bp.autonomousPolicy.maxValueUsdCents
      ≤ autoCents bp'.autonomousPolicy.maxValueUsdCents := by
    unfold autoCents
    cases hknown : bp.autonomousPolicy.maxValueUsdCents.value? with
    | none => exact Nat.zero_le _
    | some v => rw [h.autonomous v hknown]
  refine ⟨hauto, ?_⟩
  cases hknown : bp.escalationPolicy.maxValueUsdCents.value? with
  | none =>
    have hcap : capCents bp.autonomousPolicy.maxValueUsdCents
        bp.escalationPolicy.maxValueUsdCents
          = autoCents bp.autonomousPolicy.maxValueUsdCents := by
      rw [capCents, hknown, Option.getD_none]
    rw [hcap]
    exact hauto.trans (auto_le_cap hbuildable)
  | some v =>
    rw [capCents, capCents, hknown, h.escalation v hknown, Option.getD_some, Option.getD_some]

/-- **An unknown limit permits no more than a known one**, under the lab's policy and the fork's. -/
theorem permits_more {bp : Blueprint} {kindsOf : Blueprint → List String}
    (hkinds : ∀ bp', Resolves bp bp' → kindsOf bp' = kindsOf bp) :
    UnknownIsStricter (fun bp => withKinds bp (kindsOf bp)) bp := by
  intro bp' h hbuildable req ctx nowUnix hamount
  obtain ⟨hauto, hcap⟩ := limits_le h hbuildable
  have hsame : withKinds bp' (kindsOf bp') = (withKinds bp (kindsOf bp)).withLimits
      (usd6 (autoCents bp'.autonomousPolicy.maxValueUsdCents))
      (usd6 (capCents bp'.autonomousPolicy.maxValueUsdCents
        bp'.escalationPolicy.maxValueUsdCents)) := by
    rw [hkinds bp' h, ← h.rest]
    rfl
  beta_reduce
  rw [hsame]
  exact @evaluatePolicy_mono req (withKinds bp (kindsOf bp)) ctx nowUnix _ _ _ _
    (usd6_le.mpr hauto) (usd6_le.mpr hcap) hamount

theorem mem_forkKinds {bp : Blueprint} {kind : String} :
    kind ∈ (forkPolicyFor bp).allowedActionKinds ↔
      kind ∈ bp.actions.map Action.kind ∨ kind = approveKind := by
  show kind ∈ (bp.actions.map Action.kind ++ [approveKind]).eraseDups ↔ _
  rw [List.mem_eraseDups, List.mem_append, List.mem_singleton]

theorem Resolves.actions {bp bp' : Blueprint} (h : Resolves bp bp') : bp'.actions = bp.actions := by
  rw [← h.rest]

/-- **The derived policies refine a buildable Blueprint exactly where every kind they allow is
    covered**: by an action that is named autonomous and whose own limits are no tighter than the
    global ones. -/
theorem refines_iff {bp : Blueprint} (h : (validateBlueprint bp).buildable = true) :
    (Refines bp (policyFromBlueprint bp) ∧ Refines bp (underFork bp) ∧
      UnknownIsStricter policyFromBlueprint bp ∧ UnknownIsStricter underFork bp) ↔
    ∀ kind ∈ (forkPolicyFor bp).allowedActionKinds, Covered bp kind := by
  constructor
  · intro hrefines
    exact covered_of_refines h hrefines.2.1
  · intro hcovered
    have hlab : ∀ kind ∈ bp.actions.map Action.kind, Covered bp kind := by
      intro kind hkind
      exact hcovered kind (mem_forkKinds.mpr (.inl hkind))
    have hkinds : ∀ bp', Resolves bp bp' →
        bp'.actions.map Action.kind = bp.actions.map Action.kind := by
      intro bp' hresolves
      rw [hresolves.actions]
    have hforkKinds : ∀ bp', Resolves bp bp' → (forkPolicyFor bp').allowedActionKinds
        = (forkPolicyFor bp).allowedActionKinds := by
      intro bp' hresolves
      show (bp'.actions.map Action.kind ++ [approveKind]).eraseDups = _
      rw [hresolves.actions]
      rfl
    exact ⟨refines_of_covered hlab, refines_of_covered hcovered,
      @permits_more bp (fun bp => bp.actions.map Action.kind) hkinds,
      @permits_more bp (fun bp => (forkPolicyFor bp).allowedActionKinds) hforkKinds⟩

/-! ## 5. An agent with two limit sets -/

def sampleAddress : Maybe String := .known "0x93e0FCb0F71e83F3340264339BC5983C474635c5"

def sampleAction (id kind displayName : String) : Action where
  id := id
  kind := kind
  displayName := displayName
  protocolRef := "aave"
  targetPolicy := .protocolResolved "aave" "pool"
  recipientPolicy := .selfOnly
  spendsAssets := ["USDC"]
  approvals := []

/-- An agent that repays up to $1,000 and rebalances up to $500 on its own. -/
def sampleBlueprint : Blueprint where
  revision := 1
  identity := ⟨"agent-1", "agent.eth", sampleAddress⟩
  protocols := [⟨"aave", [⟨"pool", sampleAddress⟩]⟩]
  assets := [⟨"USDC", sampleAddress⟩]
  triggers := [⟨"health", false, none⟩]
  actions := [sampleAction "repay" "AAVE_REPAY" "Repay debt",
    sampleAction "rebalance" "TOKEN_SWAP" "Rebalance"]
  permissions := ⟨[⟨"repay debt and rebalance", none⟩],
    [⟨"withdraw, arbitrary transfer, arbitrary token approval", none⟩]⟩
  autonomousPolicy := ⟨.known 100000, ["repay", "rebalance"]⟩
  escalationPolicy := ⟨.known 100000, .known 500000, .approvalRegistryStandin⟩
  perActionLimits := [⟨"rebalance", .known 50000, .known 50000, .known 200000⟩]
  confidentialPolicy := ⟨false, .none⟩
  contextSources := []
  adapters := []
  dataRequirements := []
  capabilityPolicy := ⟨60, [.nonce, .expiry, .chainId, .target, .calldataHash]⟩
  cre := ⟨false, []⟩
  ledger := ⟨true, some "HW-1"⟩
  executorAddress := sampleAddress
  simulationScenarios := ["NORMAL"]
  generatedModules := [⟨"contextlock-core", true⟩]

theorem refines_iff_sample : (validateBlueprint sampleBlueprint).buildable = true ∧
    ((Refines sampleBlueprint (policyFromBlueprint sampleBlueprint) ∧
        Refines sampleBlueprint (underFork sampleBlueprint) ∧
        UnknownIsStricter policyFromBlueprint sampleBlueprint ∧
        UnknownIsStricter underFork sampleBlueprint) ↔
      ∀ kind ∈ (forkPolicyFor sampleBlueprint).allowedActionKinds, Covered sampleBlueprint kind) := by
  have hbuildable : (validateBlueprint sampleBlueprint).buildable = true := by decide
  exact ⟨hbuildable, refines_iff hbuildable⟩

/-- **A rebalance of $1,000 is allowed**, with $500 the limit of rebalancing. -/
theorem rebalance_counterexample :
    (validateBlueprint sampleBlueprint).buildable = true ∧
      (evaluatePolicy (ownRequest sampleBlueprint "TOKEN_SWAP" 1000000000)
        (policyFromBlueprint sampleBlueprint) (market 0) 0).verdict = .allow ∧
      ¬ Refines sampleBlueprint (policyFromBlueprint sampleBlueprint) := by
  have hbuildable : (validateBlueprint sampleBlueprint).buildable = true := by decide
  have hallow : (evaluatePolicy (ownRequest sampleBlueprint "TOKEN_SWAP" 1000000000)
      (policyFromBlueprint sampleBlueprint) (market 0) 0).verdict = .allow :=
    @evaluatePolicy_allows sampleBlueprint ["AAVE_REPAY", "TOKEN_SWAP"] "TOKEN_SWAP" hbuildable
      (by decide)
  refine ⟨hbuildable, hallow, fun hrefines => ?_⟩
  obtain ⟨_, a, ha, hkind, _, hlimits⟩ := hrefines.allow _ _ _ hallow
  have hrebalance : a.id = "rebalance" := by
    rcases List.mem_cons.mp ha with rfl | ha
    · exact absurd hkind (by decide)
    · rw [List.mem_singleton.mp ha]
      rfl
  have hlimit := hlimits ⟨"rebalance", .known 50000, .known 50000, .known 200000⟩
    List.mem_cons_self hrebalance.symm
  exact absurd hlimit (by decide)

end ContextLock.Lab
