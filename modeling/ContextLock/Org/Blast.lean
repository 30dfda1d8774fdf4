/-
  Subject:   The blast radius of one compromised agent, and what validation says about it.

  The radius is computed from the blueprint by itself: agents of the same policy or execution
  domain, and the other holders of a credential. The ledger reads limits from the blueprint by
  itself, too. Both agree with validation on every buildable organization.
-/
import ContextLock.Org.Validator
import ContextLock.Js.Sha256

namespace ContextLock.Org

open Js

/-! ## 1. The radius -/

/-- How authority reaches another agent. -/
inductive Via where
  | SHARED_POLICY
  | SHARED_DOMAIN
  | SHARED_CREDENTIAL

structure Reach where
  agentId : String
  via : Via

structure BlastRadius where
  compromisedAgentId : String
  directCapabilities : List String
  maxAutonomousUsdCents : Option Nat
  maxWindowUsdCents : Option Nat
  authorityReachesAgents : List Reach
  canMessageAgents : List String
  containedBy : List String

def bindingWindowCap (org : OrganizationBlueprint) (agent : AgentBlueprint) : Option Nat :=
  match agent.dailyMaxUsdCents, aggregate org.ledger with
  | none, agg => agg.map (·.maxUsdCents)
  | some daily, some agg => some (min daily agg.maxUsdCents)
  | some daily, none => some daily

/-- The agents of the same policy, or of the same execution domain. -/
def samePrincipal (org : OrganizationBlueprint) (agent : AgentBlueprint) : List Reach :=
  org.agents.filterMap fun other =>
    if other.id = agent.id then none
    else if other.policyId = agent.policyId then some ⟨other.id, .SHARED_POLICY⟩
    else if other.executionDomain = agent.executionDomain then some ⟨other.id, .SHARED_DOMAIN⟩
    else none

/-- The other holders of one resource, added where they are not reached yet. -/
def addHolders (agentId : String) (reaches : List Reach) (holders : List String) : List Reach :=
  holders.foldl (fun reaches other =>
    if other = agentId ∨ reaches.any (·.agentId = other) then reaches
    else reaches ++ [⟨other, .SHARED_CREDENTIAL⟩]) reaches

/-- `reaches`: the agents whose authority the attacker also obtains. -/
def sharedAuthority (org : OrganizationBlueprint) (agent : AgentBlueprint) : List Reach :=
  org.sharedResources.foldl (fun reaches r =>
    if r.kind = .credential ∧ agent.id ∈ r.agentIds then addHolders agent.id reaches r.agentIds
    else reaches) (samePrincipal org agent)

/-- What the attacker still cannot do. -/
def containment (org : OrganizationBlueprint) (agent : AgentBlueprint) : List String :=
  (if agent.executionClass ≠ .EXECUTE then
    ["Agent holds no execution capability, so no value can move through it."] else [])
  ++ (if sharedAuthority org agent = [] then
    ["No other agent shares its policy, execution domain, or credentials."] else [])
  ++ (match aggregate org.ledger with
      | some agg => [s!"Organization aggregate cap of {agg.maxUsdCents} cents per {agg.windowMs} "
        ++ "ms bounds total loss regardless of per-agent limits."]
      | none => [])
  ++ ["Messages it sends carry no authority; a recipient still has to pass its own policy."]
  ++ (if org.delegationEnabled = false then
    ["Delegation is not representable, so it cannot grant itself another agent's authority."]
  else [])

/-- `computeBlastRadius`. The ids sorted are lowercase letters, digits and hyphens, which a
    locale compares as their code units are. -/
def computeBlastRadius (org : OrganizationBlueprint) (compromisedAgentId : String) :
    Except String BlastRadius :=
  match org.agents.find? (·.id = compromisedAgentId) with
  | none => .error s!"ORG-BLAST-UNKNOWN-AGENT: {compromisedAgentId}"
  | some agent =>
    .ok {
      compromisedAgentId
      directCapabilities :=
        if agent.executionClass = .EXECUTE then agent.executionCapabilities else []
      maxAutonomousUsdCents :=
        if agent.executionClass = .EXECUTE then agent.autonomousMaxUsdCents else some 0
      maxWindowUsdCents :=
        if agent.executionClass = .EXECUTE then bindingWindowCap org agent else some 0
      authorityReachesAgents :=
        (sharedAuthority org agent).mergeSort fun a b => textLe a.agentId b.agentId
      canMessageAgents :=
        ((org.communicationRules.filter (·.fromAgent = agent.id)).map (·.toAgent)).mergeSort textLe
      containedBy := containment org agent }

/-! ## 2. Separated organizations -/

section Separated

variable {org : OrganizationBlueprint} {agent other : AgentBlueprint}

theorem agent_eq_of_key {key : AgentBlueprint → String} (h : (org.agents.map key).Nodup)
    (ha : agent ∈ org.agents) (ho : other ∈ org.agents) (heq : key other = key agent) :
    other = agent :=
  List.inj_on_of_nodup_map h ho ha heq

theorem samePrincipal_eq_nil (h : Separated org) (ha : agent ∈ org.agents) :
    samePrincipal org agent = [] := by
  unfold samePrincipal
  rw [List.filterMap_eq_nil_iff]
  intro other ho
  by_cases hid : other.id = agent.id
  · rw [if_pos hid]
  · have hne : other ≠ agent := fun heq => hid (heq ▸ rfl)
    have hpolicy : other.policyId ≠ agent.policyId :=
      fun heq => hne (agent_eq_of_key h.policies ha ho heq)
    have hdomain : other.executionDomain ≠ agent.executionDomain :=
      fun heq => hne (agent_eq_of_key h.domains ha ho heq)
    rw [if_neg hid, if_neg hpolicy, if_neg hdomain]

theorem addHolders_of_single {agentId : String} {holders : List String} {reaches : List Reach}
    (hmem : agentId ∈ holders) (hlen : holders.length ≤ 1) :
    addHolders agentId reaches holders = reaches := by
  obtain ⟨holder, rfl⟩ : ∃ holder, holders = [holder] := by
    have hpos : 0 < holders.length := List.length_pos_of_mem hmem
    exact List.length_eq_one_iff.mp (by omega)
  have hself : agentId = holder := List.mem_singleton.mp hmem
  unfold addHolders
  rw [List.foldl_cons, List.foldl_nil, if_pos (Or.inl hself.symm)]

/-- **An agent of a separated organization shares its authority with nobody.** -/
theorem sharedAuthority_eq_nil (h : Separated org) (ha : agent ∈ org.agents) :
    sharedAuthority org agent = [] := by
  unfold sharedAuthority
  rw [samePrincipal_eq_nil h ha]
  have hcredentials := h.credentials
  generalize org.sharedResources = resources at hcredentials
  induction resources with
  | nil => rfl
  | cons r rest ih =>
    have hrest := ih fun r' hr' => hcredentials r' (List.mem_cons_of_mem r hr')
    rw [List.foldl_cons]
    by_cases hr : r.kind = .credential ∧ agent.id ∈ r.agentIds
    · have hsingle := hcredentials r List.mem_cons_self hr.1
      rw [if_pos hr, addHolders_of_single hr.2 hsingle]
      exact hrest
    · rw [if_neg hr]
      exact hrest

theorem find_agent (h : Separated org) (ha : agent ∈ org.agents) :
    org.agents.find? (·.id = agent.id) = some agent := by
  cases hfind : org.agents.find? (·.id = agent.id) with
  | none => exact absurd (decide_eq_true rfl) (List.find?_eq_none.mp hfind agent ha)
  | some other =>
    have hid : other.id = agent.id := by simpa using List.find?_some hfind
    rw [agent_eq_of_key h.ids ha (List.mem_of_find?_eq_some hfind) hid]

/-- **An executing agent of a separated organization has known limits.** -/
theorem ceilings_ne_unknown (h : Separated org) (ha : agent ∈ org.agents)
    (hexec : agent.executionClass = .EXECUTE) (usdCents : Int) :
    ∃ perAction agentDaily, ceilings org.ledger agent.id usdCents = .ok (perAction, agentDaily) := by
  obtain ⟨perAction, hper⟩ := Option.ne_none_iff_exists'.mp (h.escalation agent ha hexec)
  obtain ⟨agentDaily, hdaily⟩ := Option.ne_none_iff_exists'.mp (h.daily agent ha hexec)
  refine ⟨perAction, agentDaily, ceilings_eq_ok.mpr ⟨agent.toOrgAgent, ?_, hexec, hper, hdaily⟩⟩
  have hfind := find_agent h ha
  show (org.agents.map (·.toOrgAgent)).find? (·.id = agent.id) = some agent.toOrgAgent
  rw [List.find?_map, Function.comp_def, hfind, Option.map_some]

/-- A reservation of an agent with known limits fails for another reason. -/
theorem reserve_ne_unknown {agentId actionRef : String} {usdCents checked created : Int}
    {perAction agentDaily : Nat} {ledger : Organization} {db : DB} {e : OrgBudgetError}
    (hc : ceilings ledger agentId usdCents = .ok (perAction, agentDaily))
    (h : reserve ledger db agentId usdCents actionRef checked created = .error e) :
    e.reason ≠ .UNKNOWN_LIMIT := by
  unfold reserve at h
  rw [hc] at h
  simp only [bind, Except.bind] at h
  split_ifs at h
  · cases h
    exact nofun
  · cases h
    exact nofun
  · cases h
    exact nofun
  · split at h
    · cases h
      exact nofun
    · cases h

end Separated

/-! ## 3. Buildable organizations -/

/-- **Buildable organizations are contained**: no agent's authority reaches another agent, and
    no reservation of an executing agent fails for an unknown limit, whatever the ledger
    holds. -/
theorem buildable_contained (parsed : Except (List (String × String)) OrganizationBlueprint)
    (h : (validateOrganization parsed).buildable = true) :
    ∃ org, parsed = .ok org ∧ ∀ agent ∈ org.agents,
      (∃ radius, computeBlastRadius org agent.id = .ok radius ∧
        radius.authorityReachesAgents = []) ∧
      (agent.executionClass = .EXECUTE → ∀ db usdCents actionRef checked created e,
        reserve org.ledger db agent.id usdCents actionRef checked created = .error e →
        e.reason ≠ .UNKNOWN_LIMIT) := by
  obtain ⟨org, rfl, hclean⟩ := buildable_iff.mp h
  have hsep := separated_of_buildable hclean
  refine ⟨org, rfl, fun agent ha => ⟨?_,
    fun hexec db usdCents actionRef checked created e he => ?_⟩⟩
  · unfold computeBlastRadius
    rw [find_agent hsep ha]
    refine ⟨_, rfl, ?_⟩
    show (sharedAuthority org agent).mergeSort _ = []
    rw [sharedAuthority_eq_nil hsep ha]
    exact List.mergeSort_nil
  · obtain ⟨perAction, agentDaily, hc⟩ := ceilings_ne_unknown hsep ha hexec usdCents
    exact reserve_ne_unknown hc he

/-- A guardian that repays and a reporter that only reads, on one treasury. -/
def treasuryDepartment : OrganizationBlueprint where
  orgId := "org-acme-treasury"
  rootEns := "acme.eth"
  agentNamespace := "agents.acme.eth"
  agents :=
    [{ id := "guardian", executionClass := .EXECUTE, escalationMaxUsdCents := some 100000
       dailyMaxUsdCents := some 75000, ensLabel := "guardian", ensName := "guardian.agents.acme.eth"
       executionCapabilities := ["aave-v3-execution:REPAY"]
       dataCapabilities := ["aave-v3-state:position"], autonomousMaxUsdCents := some 50000
       executionDomain := "domain:guardian", policyId := "policy-guardian" },
     { id := "reporter", executionClass := .NONE, escalationMaxUsdCents := none
       dailyMaxUsdCents := none, ensLabel := "reporter", ensName := "reporter.agents.acme.eth"
       executionCapabilities := [], dataCapabilities := ["thegraph:positions"]
       autonomousMaxUsdCents := none, executionDomain := "domain:reporter"
       policyId := "policy-reporter" }]
  sharedResources :=
    [⟨"treasury-main", .treasury, ["guardian"]⟩, ⟨"relayer-key", .credential, ["guardian"]⟩]
  aggregateLimits := [⟨125000, 86400000, by decide⟩]
  communicationRules := [⟨"reporter", "guardian"⟩]
  delegationEnabled := false
  delegation_off := rfl

/-- The department is buildable, and so contained. -/
theorem buildable_contained_department :
    (validateOrganization (.ok treasuryDepartment)).buildable = true ∧
      ∃ org, (Except.ok treasuryDepartment : Except (List (String × String)) _) = .ok org ∧
        ∀ agent ∈ org.agents,
          (∃ radius, computeBlastRadius org agent.id = .ok radius ∧
            radius.authorityReachesAgents = []) ∧
          (agent.executionClass = .EXECUTE → ∀ db usdCents actionRef checked created e,
            reserve org.ledger db agent.id usdCents actionRef checked created = .error e →
            e.reason ≠ .UNKNOWN_LIMIT) := by
  have hbuildable : (validateOrganization (.ok treasuryDepartment)).buildable = true := by
    decide
  exact ⟨hbuildable, buildable_contained (.ok treasuryDepartment) hbuildable⟩

end ContextLock.Org
