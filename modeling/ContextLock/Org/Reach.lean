/-
  Subject:   How far a compromised agent's authority reaches, step after step.

  An agent shares its authority with those of its policy, of its execution domain and with the other
  holders of its credentials. Who is reached may share more with others; the radius looks one step
  far.
-/
import ContextLock.Machine.Graph
import ContextLock.Org.Blast

namespace ContextLock.Org

open Js Machine Relation

/-! ## 1. Sharing -/

/-- The agents of two ids have one policy or one execution domain. -/
def SamePrincipal (org : OrganizationBlueprint) (x y : String) : Prop :=
  ∃ a ∈ org.agents, ∃ b ∈ org.agents, a.id = x ∧ b.id = y ∧
    (b.policyId = a.policyId ∨ b.executionDomain = a.executionDomain)

def ShareCredential (org : OrganizationBlueprint) (x y : String) : Prop :=
  ∃ r ∈ org.sharedResources, r.kind = .credential ∧ x ∈ r.agentIds ∧ y ∈ r.agentIds

/-- Who has the authority of `x` has that of `y`. -/
def Shares (org : OrganizationBlueprint) (x y : String) : Prop :=
  SamePrincipal org x y ∨ ShareCredential org x y

/-- Another id that shares with the agent itself. -/
def SharesWith (org : OrganizationBlueprint) (agent : AgentBlueprint) (y : String) : Prop :=
  y ≠ agent.id ∧
    ((∃ other ∈ org.agents, other.id = y ∧
        (other.policyId = agent.policyId ∨ other.executionDomain = agent.executionDomain)) ∨
      ShareCredential org agent.id y)

/-- Nobody who shares with the agent, or is it, shares with anybody else. -/
def SharingClosed (org : OrganizationBlueprint) (agent : AgentBlueprint) : Prop :=
  ∀ x y, x = agent.id ∨ SharesWith org agent x → Shares org x y →
    y = agent.id ∨ SharesWith org agent y

theorem shares_of_sharesWith {org : OrganizationBlueprint} {agent : AgentBlueprint} {y : String}
    (ha : agent ∈ org.agents) (h : SharesWith org agent y) : y ≠ agent.id ∧ Shares org agent.id y := by
  obtain ⟨hne, ⟨other, ho, hid, hsame⟩ | hcredential⟩ := h
  · exact ⟨hne, .inl ⟨agent, ha, other, ho, rfl, hid, hsame⟩⟩
  · exact ⟨hne, .inr hcredential⟩

/-! ## 2. The radius -/

section Radius

variable {org : OrganizationBlueprint} {agent : AgentBlueprint}

def reachedIds (reaches : List Reach) : List String := reaches.map (·.agentId)

theorem mem_samePrincipal {y : String} : y ∈ reachedIds (samePrincipal org agent) ↔
    y ≠ agent.id ∧ ∃ other ∈ org.agents, other.id = y ∧
      (other.policyId = agent.policyId ∨ other.executionDomain = agent.executionDomain) := by
  unfold reachedIds samePrincipal
  rw [List.mem_map]
  constructor
  · rintro ⟨reach, hreach, rfl⟩
    obtain ⟨other, ho, hsome⟩ := List.mem_filterMap.mp hreach
    by_cases hid : other.id = agent.id
    · rw [if_pos hid] at hsome
      cases hsome
    · rw [if_neg hid] at hsome
      by_cases hpolicy : other.policyId = agent.policyId
      · rw [if_pos hpolicy] at hsome
        obtain rfl := Option.some.inj hsome
        exact ⟨hid, other, ho, rfl, .inl hpolicy⟩
      · rw [if_neg hpolicy] at hsome
        by_cases hdomain : other.executionDomain = agent.executionDomain
        · rw [if_pos hdomain] at hsome
          obtain rfl := Option.some.inj hsome
          exact ⟨hid, other, ho, rfl, .inr hdomain⟩
        · rw [if_neg hdomain] at hsome
          cases hsome
  · rintro ⟨hne, other, ho, rfl, hsame⟩
    by_cases hpolicy : other.policyId = agent.policyId
    · refine ⟨⟨other.id, .SHARED_POLICY⟩, List.mem_filterMap.mpr ⟨other, ho, ?_⟩, rfl⟩
      rw [if_neg hne, if_pos hpolicy]
    · refine ⟨⟨other.id, .SHARED_DOMAIN⟩, List.mem_filterMap.mpr ⟨other, ho, ?_⟩, rfl⟩
      rw [if_neg hne, if_neg hpolicy, if_pos (hsame.resolve_left hpolicy)]

theorem mem_addHolders {agentId y : String} {reaches : List Reach} {holders : List String} :
    y ∈ reachedIds (addHolders agentId reaches holders) ↔
      y ∈ reachedIds reaches ∨ y ≠ agentId ∧ y ∈ holders := by
  unfold addHolders
  induction holders generalizing reaches with
  | nil => simp
  | cons holder holders ih =>
    rw [List.foldl_cons, ih]
    by_cases hskip : holder = agentId ∨ reaches.any (·.agentId = holder) = true
    · rw [if_pos hskip, List.mem_cons]
      constructor
      · rintro (hmem | ⟨hne, hmem⟩)
        · exact .inl hmem
        · exact .inr ⟨hne, .inr hmem⟩
      · rintro (hmem | ⟨hne, rfl | hmem⟩)
        · exact .inl hmem
        · obtain ⟨reach, hreach, hid⟩ := List.any_eq_true.mp (hskip.resolve_left hne)
          exact .inl (List.mem_map.mpr ⟨reach, hreach, of_decide_eq_true hid⟩)
        · exact .inr ⟨hne, hmem⟩
    · rw [if_neg hskip, reachedIds, List.map_append, List.mem_append, ← reachedIds, List.mem_cons]
      have hne : holder ≠ agentId := fun heq => hskip (.inl heq)
      constructor
      · rintro ((hmem | hmem) | ⟨hne', hmem⟩)
        · exact .inl hmem
        · obtain rfl := List.mem_singleton.mp hmem
          exact .inr ⟨hne, .inl rfl⟩
        · exact .inr ⟨hne', .inr hmem⟩
      · rintro (hmem | ⟨hne', rfl | hmem⟩)
        · exact .inl (.inl hmem)
        · exact .inl (.inr (List.mem_singleton.mpr rfl))
        · exact .inr ⟨hne', hmem⟩

/-- **The radius holds who shares with the agent**, and nobody else. -/
theorem mem_sharedAuthority {y : String} :
    y ∈ reachedIds (sharedAuthority org agent) ↔ SharesWith org agent y := by
  unfold sharedAuthority SharesWith ShareCredential
  have hfold : ∀ (resources : List SharedResource) (reaches : List Reach),
      y ∈ reachedIds (resources.foldl (fun reaches r =>
        if r.kind = .credential ∧ agent.id ∈ r.agentIds then addHolders agent.id reaches r.agentIds
        else reaches) reaches) ↔
      y ∈ reachedIds reaches ∨ y ≠ agent.id ∧ ∃ r ∈ resources, r.kind = .credential ∧
        agent.id ∈ r.agentIds ∧ y ∈ r.agentIds := by
    intro resources
    induction resources with
    | nil => simp
    | cons r resources ih =>
      intro reaches
      rw [List.foldl_cons, ih, List.exists_mem_cons_iff]
      by_cases hr : r.kind = .credential ∧ agent.id ∈ r.agentIds
      · rw [if_pos hr, mem_addHolders]
        obtain ⟨hkind, hmem⟩ := hr
        tauto
      · rw [if_neg hr]
        tauto
  rw [hfold, mem_samePrincipal, and_or_left]

end Radius

/-- **The radius is the closure of sharing**, but for the agent itself, exactly where nobody it
    holds shares with somebody it does not hold. -/
theorem radius_is_closure {org : OrganizationBlueprint} {a : String} {agent : AgentBlueprint}
    (h : org.agents.find? (·.id = a) = some agent) :
    ∃ radius, computeBlastRadius org a = .ok radius ∧
      ((∀ y, y ∈ reachedIds radius.authorityReachesAgents ↔
          y ≠ a ∧ ReflTransGen (Shares org) a y) ↔
        SharingClosed org agent) := by
  have hmem : agent ∈ org.agents := List.mem_of_find?_eq_some h
  have hid : agent.id = a := by simpa using List.find?_some h
  have hholds : ∀ y, y ∈ reachedIds ((sharedAuthority org agent).mergeSort
      fun a b => textLe a.agentId b.agentId) ↔ SharesWith org agent y := by
    intro y
    rw [← mem_sharedAuthority]
    exact ((List.mergeSort_perm _ _).map _).mem_iff
  refine ⟨_, by rw [computeBlastRadius, h], ?_⟩
  dsimp only
  rw [← hid, SharingClosed, ← closure_iff_closed fun y hy => shares_of_sharesWith hmem hy]
  exact forall_congr' fun y => iff_congr (hholds y) Iff.rfl

/-- The guardian of the treasury department, which shares with nobody. -/
theorem radius_is_closure_guardian : ∃ agent ∈ treasuryDepartment.agents, ∃ radius,
    computeBlastRadius treasuryDepartment "guardian" = .ok radius ∧
      ((∀ y, y ∈ reachedIds radius.authorityReachesAgents ↔
          y ≠ "guardian" ∧ ReflTransGen (Shares treasuryDepartment) "guardian" y) ↔
        SharingClosed treasuryDepartment agent) := by
  have hguardian : treasuryDepartment.agents.find? (·.id = "guardian")
      = treasuryDepartment.agents.head? := by
    simp [treasuryDepartment]
  exact ⟨_, List.mem_cons_self, radius_is_closure hguardian⟩

/-- The department with a second executor under the guardian's policy, who holds a credential with
    the reporter. -/
def chainedDepartment : OrganizationBlueprint :=
  { treasuryDepartment with
    agents := treasuryDepartment.agents ++
      [{ id := "rebalancer", executionClass := .EXECUTE, escalationMaxUsdCents := some 100000
         dailyMaxUsdCents := some 75000, ensLabel := "rebalancer"
         ensName := "rebalancer.agents.acme.eth"
         executionCapabilities := ["uniswap-v4-execution:SWAP"], dataCapabilities := []
         autonomousMaxUsdCents := some 50000, executionDomain := "domain:rebalancer"
         policyId := "policy-guardian" }]
    sharedResources := [⟨"relayer-key", .credential, ["rebalancer", "reporter"]⟩] }

/-- The guardian reaches the reporter through the other executor, and the radius does not hold it. -/
theorem reporter_behind_executor :
    ReflTransGen (Shares chainedDepartment) "guardian" "reporter" ∧
      ∃ radius, computeBlastRadius chainedDepartment "guardian" = .ok radius ∧
        reachedIds radius.authorityReachesAgents = ["rebalancer"] := by
  have hpolicy : Shares chainedDepartment "guardian" "rebalancer" :=
    .inl ⟨_, List.mem_cons_self, _, List.mem_append_right _ List.mem_cons_self, rfl, rfl, .inl rfl⟩
  have hcredential : Shares chainedDepartment "rebalancer" "reporter" :=
    .inr ⟨_, List.mem_cons_self, rfl, List.mem_cons_self, by decide⟩
  refine ⟨.tail (.single hpolicy) hcredential, _, rfl, ?_⟩
  decide +kernel

end ContextLock.Org
