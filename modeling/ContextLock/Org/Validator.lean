/-
  Subject:   The organization blueprint and its deterministic validation.

  Validation collects issues in one pass over the agents and one each over the shared resources,
  the aggregate limits and the communication rules. An organization is buildable if no issue is
  critical or high.
-/
import ContextLock.Org.Budget
import ContextLock.Js.Map
import ContextLock.Js.Value

namespace ContextLock.Org

open Js

/-! ## 1. The blueprint -/

/-- An agent of the blueprint: what the ledger reads of it, and what makes it a principal. -/
structure AgentBlueprint extends OrgAgent where
  ensLabel : String
  ensName : String
  executionCapabilities : List String
  dataCapabilities : List String
  autonomousMaxUsdCents : Option Nat
  executionDomain : String
  policyId : String

inductive ResourceKind where
  | treasury
  | dataSource
  | credential
  deriving DecidableEq

structure SharedResource where
  id : String
  kind : ResourceKind
  agentIds : List String

structure CommunicationRule where
  fromAgent : String
  toAgent : String

/-- The organization blueprint, as the schema admits it. -/
structure OrganizationBlueprint where
  orgId : String
  rootEns : String
  agentNamespace : String
  agents : List AgentBlueprint
  sharedResources : List SharedResource
  aggregateLimits : List AggregateLimit
  communicationRules : List CommunicationRule
  delegationEnabled : Bool
  delegation_off : delegationEnabled = false

def OrganizationBlueprint.ledger (org : OrganizationBlueprint) : Organization where
  orgId := org.orgId
  agents := org.agents.map (·.toOrgAgent)
  aggregateLimits := org.aggregateLimits

def buildEnsName (label agentNamespace : String) : String := s!"{label}.{agentNamespace}"

def executingAgents (org : OrganizationBlueprint) : List AgentBlueprint :=
  org.agents.filter (·.executionClass = .EXECUTE)

/-! ## 2. Issues -/

inductive Severity where
  | CRITICAL
  | HIGH
  | MEDIUM
  | LOW
  | INFO
  deriving DecidableEq

structure OrgIssue where
  code : String
  severity : Severity
  path : String
  message : String
  remediation : String

structure OrgValidationResult where
  ok : Bool
  /-- True only when nothing critical or high remains. -/
  buildable : Bool
  issues : List OrgIssue

/-- The issue stops the build. -/
def OrgIssue.Blocking (i : OrgIssue) : Prop := i.severity = .CRITICAL ∨ i.severity = .HIGH

/-- No issue of the list stops the build. -/
def Clean (issues : List OrgIssue) : Prop := ∀ i ∈ issues, ¬ i.Blocking

theorem clean_append {is js : List OrgIssue} : Clean (is ++ js) ↔ Clean is ∧ Clean js := by
  unfold Clean
  constructor
  · intro h
    exact ⟨fun i hi => h i (List.mem_append_left js hi),
      fun i hi => h i (List.mem_append_right is hi)⟩
  · rintro ⟨his, hjs⟩ i hi
    exact (List.mem_append.mp hi).elim (his i) (hjs i)

theorem clean_flatten {iss : List (List OrgIssue)} : Clean iss.flatten ↔ ∀ is ∈ iss, Clean is := by
  unfold Clean
  simp only [List.mem_flatten, forall_exists_index, and_imp]
  exact ⟨fun h is his i hi => h i is his hi, fun h i is his hi => h is his i hi⟩

theorem not_clean_singleton {i : OrgIssue} (h : i.Blocking) : ¬ Clean [i] :=
  fun hclean => hclean i (List.mem_singleton.mpr rfl) h

theorem not_of_clean_ite {p : Prop} [Decidable p] {i : OrgIssue} (hb : i.Blocking)
    (h : Clean (if p then [i] else [])) : ¬ p := by
  intro hp
  rw [if_pos hp] at h
  exact not_clean_singleton hb h

/-! ## 3. The pass over the agents -/

/-- The first index of each id, name, domain and policy. -/
structure Seen where
  ids : Js.Map Nat
  ens : Js.Map Nat
  domains : Js.Map Nat
  policies : Js.Map Nat

def Seen.empty : Seen := ⟨.empty, .empty, .empty, .empty⟩

/-- An issue for a key that was seen before, else the key is seen from now on. -/
def firstUse (seen : Js.Map Nat) (key : String) (i : Nat) (shared : Nat → OrgIssue) :
    List OrgIssue × Js.Map Nat :=
  match seen.get? key with
  | some first => ([shared first], seen)
  | none => ([], seen.set key i)

/-- `VALUE_MOVING`. -/
def valueMovingWords : List String :=
  ["withdraw", "borrow", "transfer", "send", "swap", "approve", "repay", "supply", "execute"]

def valueMoving (capability : String) : Bool :=
  valueMovingWords.any fun word => word.toList <:+: capability.toList.map Char.toLower

/-- The issue of a limit that is not known. -/
def unknownLimit (p : String) (a : AgentBlueprint) (field : String) (v : Option Nat) :
    List OrgIssue :=
  if v = none then
    [⟨"ORG-V-UNKNOWN-LIMIT", .HIGH, s!"{p}.{field}", s!"Agent {a.id} may execute but {field} is "
      ++ "unknown.",
      "State the limit explicitly. It is not inferred and it does not default to unlimited."⟩]
  else []

def limitIssues (p : String) (a : AgentBlueprint) : List OrgIssue :=
  unknownLimit p a "autonomousMaxUsdCents" a.autonomousMaxUsdCents
  ++ unknownLimit p a "escalationMaxUsdCents" a.escalationMaxUsdCents
  ++ unknownLimit p a "dailyMaxUsdCents" a.dailyMaxUsdCents
  ++ (match a.autonomousMaxUsdCents, a.escalationMaxUsdCents with
      | some autonomous, some escalation =>
        if escalation < autonomous then
          [⟨"ORG-V-BAND-INVERTED", .HIGH, s!"{p}.escalationMaxUsdCents",
            s!"Agent {a.id} has an escalation ceiling ({escalation}) below its autonomous limit "
              ++ s!"({autonomous}).",
            "The escalation ceiling is the outer bound; it must be at or above the autonomous "
              ++ "limit."⟩]
        else []
      | _, _ => [])
  ++ (match a.autonomousMaxUsdCents, a.dailyMaxUsdCents with
      | some autonomous, some daily =>
        if daily < autonomous then
          [⟨"ORG-V-DAILY-BELOW-SINGLE", .MEDIUM, s!"{p}.dailyMaxUsdCents",
            s!"Agent {a.id} has a daily cap ({daily}) below a single autonomous action "
              ++ s!"({autonomous}).",
            "Either raise the daily cap or lower the per-action limit; as written the per-action "
              ++ "limit is unreachable."⟩]
        else []
      | _, _ => [])

section Agents

variable (org : OrganizationBlueprint)

/-- The issues of a name: that it is not the derived one, that it is the organization's own. -/
def nameIssues (p : String) (a : AgentBlueprint) : List OrgIssue :=
  let expected := buildEnsName a.ensLabel org.agentNamespace
  (if a.ensName ≠ expected then
    [⟨"ORG-V-ENS-MISMATCH", .HIGH, s!"{p}.ensName",
      s!"Declared ENS name {a.ensName} does not match {expected} derived from the label and "
        ++ "namespace.",
      s!"Set ensName to {expected}, or change the label."⟩]
  else [])
  ++ (if a.ensName = org.rootEns ∨ a.ensName = org.agentNamespace then
    [⟨"ORG-V-ROOT-IDENTITY", .CRITICAL, s!"{p}.ensName",
      s!"Agent {a.id} holds the organization name {a.ensName} as its own identity.",
      "The root and the agent namespace are the organization, not a principal. Give the agent a "
        ++ "subname."⟩]
  else [])

/-- The issues of an agent that may not execute. -/
def classIssues (p : String) (a : AgentBlueprint) : List OrgIssue :=
  let moving := a.dataCapabilities.filter valueMoving
  (if a.executionClass ≠ .EXECUTE ∧ a.executionCapabilities ≠ [] then
    [⟨"ORG-V-NONEXEC-HAS-EXECUTION", .CRITICAL, s!"{p}.executionCapabilities",
      s!"Agent {a.id} is {classText a.executionClass} but holds execution capabilities: "
        ++ ", ".intercalate a.executionCapabilities ++ ".",
      "Remove the capabilities, or declare the agent EXECUTE and give it explicit limits."⟩]
  else [])
  ++ (if a.executionClass ≠ .EXECUTE ∧ moving ≠ [] then
    [⟨"ORG-V-VALUE-CAP-MISCLASSED", .HIGH, s!"{p}.dataCapabilities",
      s!"Agent {a.id} lists value-moving capability " ++ ", ".intercalate moving
        ++ " among its DATA capabilities.",
      "Value-moving capabilities are execution capabilities and require executionClass EXECUTE."⟩]
  else [])
where
  classText : ExecutionClass → String
    | .NONE => "NONE"
    | .READ_ONLY => "READ_ONLY"
    | .EXECUTE => "EXECUTE"

/-- The issues of the `i`-th agent, and what is seen after it. -/
def agentIssues (i : Nat) (a : AgentBlueprint) (seen : Seen) : List OrgIssue × Seen :=
  let p := s!"agents[{i}]"
  let ids := firstUse seen.ids a.id i fun first =>
    ⟨"ORG-V-DUP-AGENT-ID", .CRITICAL, s!"{p}.id",
      s!"Agent id {a.id} is used more than once (also agents[{first}]).",
      "Give every agent a distinct id; ids key attribution and revocation."⟩
  let ens := firstUse seen.ens a.ensName i fun first =>
    ⟨"ORG-V-DUP-ENS", .CRITICAL, s!"{p}.ensName",
      s!"ENS identity {a.ensName} is shared with agents[{first}].",
      "Two agents sharing one identity cannot be revoked or attributed separately."⟩
  let policies := firstUse seen.policies a.policyId i fun first =>
    ⟨"ORG-V-SHARED-POLICY", .CRITICAL, s!"{p}.policyId",
      s!"Agent {a.id} shares policy {a.policyId} with agents[{first}].",
      "Give each agent its own policy. A shared policy makes them one principal with two names."⟩
  let domains := firstUse seen.domains a.executionDomain i fun first =>
    ⟨"ORG-V-SHARED-DOMAIN", .CRITICAL, s!"{p}.executionDomain",
      s!"Agent {a.id} shares execution domain {a.executionDomain} with agents[{first}].",
      "Distinct domains keep a capability issued to one agent unusable as another."⟩
  (ids.1 ++ nameIssues org p a ++ ens.1 ++ policies.1 ++ domains.1 ++ classIssues p a
    ++ (if a.executionClass = .EXECUTE then limitIssues p a else []),
   ⟨ids.2, ens.2, domains.2, policies.2⟩)

/-- The issues of the agents from the `i`-th on. -/
def agentsIssues (i : Nat) (seen : Seen) : List AgentBlueprint → List OrgIssue
  | [] => []
  | a :: rest =>
    (agentIssues org i a seen).1 ++ agentsIssues (i + 1) (agentIssues org i a seen).2 rest

/-! ## 4. The other passes -/

/-- The issues of the `i`-th shared resource. -/
def resourceIssues (i : Nat) (r : SharedResource) : List OrgIssue :=
  (r.agentIds.filter fun id => !(org.agents.map (·.id)).contains id).map
    (fun id => ⟨"ORG-V-RESOURCE-UNKNOWN-AGENT", .HIGH, s!"sharedResources[{i}].agentIds",
      s!"Shared resource {r.id} references unknown agent {id}.",
      "Reference an agent declared in this organization."⟩)
  ++ (if r.kind = .credential ∧ 1 < r.agentIds.length then
    [⟨"ORG-V-SHARED-CREDENTIAL", .CRITICAL, s!"sharedResources[{i}]",
      s!"Credential {r.id} is shared by {r.agentIds.length} agents.",
      "A shared credential is a shared principal. Issue one per agent, or broker it so no agent "
        ++ "holds it."⟩]
  else [])

/-- The issues of the aggregate limits: none at all, or one that cannot bind. -/
def aggregateIssues : List OrgIssue :=
  let executors := executingAgents org
  (if (org.sharedResources.filter (·.kind = .treasury)) ≠ [] ∧ org.aggregateLimits = []
      ∧ 1 < executors.length then
    [⟨"ORG-V-AGGREGATE-MISSING", .CRITICAL, "aggregateLimits",
      s!"{executors.length} executing agents draw on a shared treasury with no aggregate limit.",
      "Add an organization-wide cap. Without one the exposure is the sum of every agent's limit."⟩]
  else [])
  ++ (match executors.mapM (·.dailyMaxUsdCents) with
      | some dailyCaps =>
        (org.aggregateLimits.mapIdx fun i lim =>
          if dailyCaps.sum ≤ lim.maxUsdCents ∧ 1 < executors.length then
            [(⟨"ORG-V-AGGREGATE-VACUOUS", .MEDIUM, s!"aggregateLimits[{i}].maxUsdCents",
              s!"Aggregate cap {lim.maxUsdCents} is at or above the sum of per-agent daily caps "
                ++ s!"({dailyCaps.sum}), so it can never bind.",
              "Set the aggregate below the sum, or state plainly that per-agent limits are the "
                ++ "only real bound."⟩
              : OrgIssue)]
          else []).flatten
      | none => [])

/-- The issues of the `i`-th communication rule. -/
def communicationIssues (i : Nat) (c : CommunicationRule) : List OrgIssue :=
  ([("from", c.fromAgent), ("to", c.toAgent)].filter
    fun f => !(org.agents.map (·.id)).contains f.2).map
    (fun f => ⟨"ORG-V-COMM-UNKNOWN-AGENT", .HIGH, s!"communicationRules[{i}].{f.1}",
      s!"Communication rule references unknown agent {f.2}.",
      "Reference an agent declared in this organization."⟩)
  ++ (if c.fromAgent = c.toAgent then
    [⟨"ORG-V-COMM-SELF", .LOW, s!"communicationRules[{i}]",
      s!"Agent {c.fromAgent} has a communication rule to itself.",
      "Remove it; it describes nothing."⟩]
  else [])

def namespaceIssues : List OrgIssue :=
  if ¬ ("." ++ org.rootEns).toList.isSuffixOf org.agentNamespace.toList then
    [⟨"ORG-V-NAMESPACE-ROOT", .HIGH, "agentNamespace",
      s!"Agent namespace {org.agentNamespace} is not under the organization root {org.rootEns}.",
      s!"Use a subname of {org.rootEns}, e.g. agents.{org.rootEns}."⟩]
  else []

def issuesOf : List OrgIssue :=
  namespaceIssues org ++ agentsIssues org 0 .empty org.agents
  ++ (org.sharedResources.mapIdx (resourceIssues org)).flatten
  ++ aggregateIssues org
  ++ (org.communicationRules.mapIdx (communicationIssues org)).flatten

end Agents

/-! ## 5. Validation -/

/-- `validateOrganization`, on what the schema makes of the input: its issues, each a path and
    a message, or the blueprint. -/
def validateOrganization (parsed : Except (List (String × String)) OrganizationBlueprint) :
    OrgValidationResult :=
  match parsed with
  | .error errors =>
    { ok := false, buildable := false
      issues := errors.map fun e => ⟨"ORG-SCHEMA", .CRITICAL, e.1, e.2,
        "Correct the organization document to match contextlock.organization/v1."⟩ }
  | .ok org =>
    let issues := issuesOf org
    { ok := issues.isEmpty
      buildable := !issues.any (·.severity = .CRITICAL) && !issues.any (·.severity = .HIGH)
      issues }

theorem buildable_iff {parsed : Except (List (String × String)) OrganizationBlueprint} :
    (validateOrganization parsed).buildable = true ↔
      ∃ org, parsed = .ok org ∧ Clean (issuesOf org) := by
  cases parsed with
  | error errors => simp [validateOrganization]
  | ok org =>
    simp only [validateOrganization, Except.ok.injEq, exists_eq_left', Clean, OrgIssue.Blocking,
      Bool.and_eq_true, Bool.not_eq_true', List.any_eq_false, decide_eq_true_eq, not_or]
    exact ⟨fun h i hi => ⟨h.1 i hi, h.2 i hi⟩,
      fun h => ⟨fun i hi => (h i hi).1, fun i hi => (h i hi).2⟩⟩

/-! ## 6. What a buildable organization is -/

/-- **Separate principals**: no id, policy or domain stands twice, no credential has two
    holders, and an executing agent's limits are known. -/
structure Separated (org : OrganizationBlueprint) : Prop where
  ids : (org.agents.map (·.id)).Nodup
  policies : (org.agents.map (·.policyId)).Nodup
  domains : (org.agents.map (·.executionDomain)).Nodup
  credentials : ∀ r ∈ org.sharedResources, r.kind = .credential → r.agentIds.length ≤ 1
  escalation : ∀ a ∈ org.agents, a.executionClass = .EXECUTE → a.escalationMaxUsdCents ≠ none
  daily : ∀ a ∈ org.agents, a.executionClass = .EXECUTE → a.dailyMaxUsdCents ≠ none

section Passes

variable {org : OrganizationBlueprint} {i : Nat} {a : AgentBlueprint} {seen : Seen}

theorem firstUse_clean {seen : Js.Map Nat} {key : String} {shared : Nat → OrgIssue}
    (hb : ∀ first, (shared first).Blocking) (h : Clean (firstUse seen key i shared).1) :
    seen.get? key = none ∧ (firstUse seen key i shared).2 = seen.set key i := by
  unfold firstUse at h ⊢
  cases hget : seen.get? key with
  | some first =>
    rw [hget] at h
    exact absurd h (not_clean_singleton (hb first))
  | none => exact ⟨rfl, rfl⟩

theorem unknownLimit_clean {p field : String} {v : Option Nat}
    (h : Clean (unknownLimit p a field v)) : v ≠ none :=
  not_of_clean_ite (Or.inr rfl) h

/-- What an agent is whose issues are clean. -/
structure AgentClean (i : Nat) (a : AgentBlueprint) (seen seen' : Seen) : Prop where
  id : seen.ids.get? a.id = none ∧ seen'.ids = seen.ids.set a.id i
  policy : seen.policies.get? a.policyId = none ∧ seen'.policies = seen.policies.set a.policyId i
  domain : seen.domains.get? a.executionDomain = none ∧
    seen'.domains = seen.domains.set a.executionDomain i
  limits : a.executionClass = .EXECUTE →
    a.escalationMaxUsdCents ≠ none ∧ a.dailyMaxUsdCents ≠ none

/-- **One agent**: with clean issues its keys are new, and its limits known if it executes. -/
theorem agentIssues_clean (h : Clean (agentIssues org i a seen).1) :
    AgentClean i a seen (agentIssues org i a seen).2 := by
  unfold agentIssues at h
  simp only [clean_append] at h
  obtain ⟨⟨⟨⟨⟨⟨hid, _⟩, _⟩, hpolicy⟩, hdomain⟩, _⟩, hlimits⟩ := h
  refine ⟨firstUse_clean (fun _ => Or.inl rfl) hid, firstUse_clean (fun _ => Or.inl rfl) hpolicy,
    firstUse_clean (fun _ => Or.inl rfl) hdomain, fun hexec => ?_⟩
  rw [if_pos hexec] at hlimits
  unfold limitIssues at hlimits
  simp only [clean_append] at hlimits
  exact ⟨unknownLimit_clean hlimits.1.1.1.2, unknownLimit_clean hlimits.1.1.2⟩

/-- **What every agent finds new and then records is distinct** over all agents, and new to
    what was seen before them. -/
theorem agents_nodup (key : AgentBlueprint → String) (recorded : Seen → Js.Map Nat)
    (hstep : ∀ i a seen, Clean (agentIssues org i a seen).1 →
      (recorded seen).get? (key a) = none ∧
        recorded (agentIssues org i a seen).2 = (recorded seen).set (key a) i)
    (agents : List AgentBlueprint) (i : Nat) (seen : Seen)
    (h : Clean (agentsIssues org i seen agents)) :
    (agents.map key).Nodup ∧ ∀ a ∈ agents, (recorded seen).get? (key a) = none := by
  induction agents generalizing i seen with
  | nil => exact ⟨List.nodup_nil, fun a ha => absurd ha List.not_mem_nil⟩
  | cons a rest ih =>
    obtain ⟨hfirst, hrest⟩ := clean_append.mp h
    obtain ⟨hnew, hset⟩ := hstep i a seen hfirst
    obtain ⟨hnodup, hfresh⟩ := ih (i + 1) _ hrest
    -- what the rest finds new in the larger map is another key, and new in the smaller one
    have hother : ∀ b ∈ rest, key b ≠ key a ∧ (recorded seen).get? (key b) = none := by
      intro b hb
      have hget := hfresh b hb
      rw [hset, Map.get?_set] at hget
      by_cases heq : key b = key a
      · rw [if_pos heq] at hget
        cases hget
      · rw [if_neg heq] at hget
        exact ⟨heq, hget⟩
    refine ⟨List.nodup_cons.mpr ⟨fun hmem => ?_, hnodup⟩, fun b hb => ?_⟩
    · obtain ⟨b, hb, heq⟩ := List.mem_map.mp hmem
      exact (hother b hb).1 heq
    · rcases List.mem_cons.mp hb with rfl | hb
      · exact hnew
      · exact (hother b hb).2

theorem agents_limits (agents : List AgentBlueprint) (i : Nat) (seen : Seen)
    (h : Clean (agentsIssues org i seen agents)) :
    ∀ a ∈ agents, a.executionClass = .EXECUTE →
      a.escalationMaxUsdCents ≠ none ∧ a.dailyMaxUsdCents ≠ none := by
  induction agents generalizing i seen with
  | nil => exact fun a ha => absurd ha List.not_mem_nil
  | cons a rest ih =>
    obtain ⟨hfirst, hrest⟩ := clean_append.mp h
    intro b hb
    rcases List.mem_cons.mp hb with rfl | hb
    · exact (agentIssues_clean hfirst).limits
    · exact ih (i + 1) _ hrest b hb

theorem separated_of_buildable (h : Clean (issuesOf org)) : Separated org := by
  unfold issuesOf at h
  simp only [clean_append] at h
  obtain ⟨⟨⟨⟨_, hagents⟩, hresources⟩, _⟩, _⟩ := h
  have hlimits := agents_limits org.agents 0 .empty hagents
  have hids := agents_nodup (·.id) Seen.ids
    (fun _ _ _ hclean => (agentIssues_clean hclean).id) org.agents 0 .empty hagents
  have hpolicies := agents_nodup (·.policyId) Seen.policies
    (fun _ _ _ hclean => (agentIssues_clean hclean).policy) org.agents 0 .empty hagents
  have hdomains := agents_nodup (·.executionDomain) Seen.domains
    (fun _ _ _ hclean => (agentIssues_clean hclean).domain) org.agents 0 .empty hagents
  refine ⟨hids.1, hpolicies.1, hdomains.1, fun r hr hkind => ?_,
    fun a ha hexec => (hlimits a ha hexec).1, fun a ha hexec => (hlimits a ha hexec).2⟩
  obtain ⟨n, hn, rfl⟩ := List.getElem_of_mem hr
  have hmem : resourceIssues org n org.sharedResources[n] ∈
      org.sharedResources.mapIdx (resourceIssues org) :=
    List.mem_mapIdx.mpr ⟨n, hn, rfl⟩
  have hcredential := (clean_append.mp (clean_flatten.mp hresources _ hmem)).2
  have hnot := not_of_clean_ite (Or.inl rfl) hcredential
  exact not_lt.mp fun hlt => hnot ⟨hkind, hlt⟩

end Passes

end ContextLock.Org
