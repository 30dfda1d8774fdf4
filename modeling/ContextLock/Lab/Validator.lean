/-
  Subject:   The deterministic validation of a Blueprint.

  Validation collects the issues of one rule after the other. A Blueprint is buildable if the
  schema admits it, no issue is critical or high, and no unknown blocks a build.
-/
import ContextLock.Lab.Blueprint
import ContextLock.Network.Fences

namespace ContextLock.Lab

open Js

/-! ## 1. Issues -/

inductive Severity where
  | CRITICAL
  | HIGH
  | MEDIUM
  | LOW
  | INFO
  deriving DecidableEq

structure ValidationIssue where
  code : String
  severity : Severity
  path : String
  message : String
  remediation : String

structure ValidationResult where
  ok : Bool
  buildable : Bool
  issues : List ValidationIssue
  unknowns : List (String × String)

def issueIf (c : Bool) (i : ValidationIssue) : List ValidationIssue := if c then [i] else []

def quoted (s : String) : String := "\"" ++ s ++ "\""

/-- `text.includes(word)`. -/
def includesText (word text : String) : Bool := word.toList <:+: text.toList

/-! ## 2. Limits, networks and targets -/

def perActionIssues (globalAuto globalCap : Option Nat) (actionIds : List String)
    (l : PerActionLimit) : List ValidationIssue :=
  let path := "perActionLimits." ++ l.actionRef
  let auto := l.autonomousMaxUsdCents.value?
  let cap := l.escalationMaxUsdCents.value?
  let exceeds (a b : Option Nat) : Bool := a.any fun x => b.any fun y => y < x
  let shown (n : Option Nat) : String := "(" ++ toString (n.getD 0) ++ ")"
  if l.actionRef ∉ actionIds then
    [⟨"BP-PERACTION", .CRITICAL, path, "per-action limit references " ++ quoted l.actionRef ++
      ", which is not an action in this Blueprint",
      "Every per-action limit must name an action the agent actually has."⟩]
  else
    issueIf (exceeds auto globalAuto) ⟨"BP-PERACTION", .CRITICAL, path ++ ".autonomousMaxUsdCents",
      "the per-action autonomous limit " ++ shown auto ++ " exceeds the global limit " ++
        shown globalAuto,
      "A per-action limit may only tighten. Raise the global limit deliberately, or lower this one."⟩
    ++ issueIf (exceeds cap globalCap) ⟨"BP-PERACTION", .CRITICAL, path ++ ".escalationMaxUsdCents",
      "the per-action hard cap " ++ shown cap ++ " exceeds the global hard cap " ++
        shown globalCap,
      "A per-action limit may only tighten. The global cap is the ceiling."⟩
    ++ issueIf (exceeds auto cap) ⟨"BP-PERACTION", .CRITICAL, path,
      "the per-action autonomous limit " ++ shown auto ++ " exceeds its own hard cap " ++
        shown cap,
      "An autonomous limit above the hard cap would let an action run unattended at a value the " ++
        "same policy denies."⟩

/-- `blueprintExecutionNetworks`: the paths of the networks it would execute on. -/
def executionNetworkPaths (bp : Blueprint) : List String :=
  ["identity.chainId", "execution.chainId"]
    ++ bp.protocols.map fun p => "protocols." ++ p.id ++ ".chainId"

/-- The write fence refuses the network at a path; the message is the fence's own. -/
def networkIssues (path : String) : List ValidationIssue :=
  match Network.assertExecutionAllowed BLUEPRINT_CHAIN_ID .TESTNET_EXECUTION .PUBLIC_WRITE with
  | .ok _ => []
  | .error _ => [⟨"BP-NETWORK", .CRITICAL, path, "",
      "ContextLock executes on approved testnets only. Mainnet may be read as market data; it " ++
        "may never be an execution target."⟩]

def targetIssues (bp : Blueprint) (a : Action) : List ValidationIssue :=
  let path := "actions." ++ a.id ++ ".targetPolicy"
  match a.targetPolicy with
  | .fixedAllowlist _ => []
  | .arbitrary _ =>
    [⟨"BP-001", .HIGH, path, "Action " ++ quoted a.id ++ " may call an arbitrary target. " ++
      "Arbitrary target selection reintroduces the ambient authority ContextLock exists to remove.",
      "Use fixed-allowlist or protocol-resolved targets, or have a human explicitly accept this " ++
        "exposure."⟩]
  | .protocolResolved protocolRef contractRole =>
    match bp.protocols.find? fun p => p.id = protocolRef with
    | none =>
      [⟨"BP-002", .CRITICAL, path ++ ".protocolRef", "Action " ++ quoted a.id ++
        " resolves its target through protocol " ++ quoted protocolRef ++ ", which is not declared.",
        "Declare the protocol, or point the action at one that exists."⟩]
    | some proto =>
      issueIf (!proto.contracts.any fun c => c.role = contractRole)
        ⟨"BP-002", .CRITICAL, path ++ ".contractRole", "Protocol " ++ quoted proto.id ++
          " declares no contract with role " ++ quoted contractRole ++ ".",
          "Add the contract role to the protocol, or correct the action."⟩

def recipientIssues (a : Action) : List ValidationIssue :=
  match a.recipientPolicy with
  | .arbitrary _ =>
    [⟨"BP-003", .CRITICAL, "actions." ++ a.id ++ ".recipientPolicy", "Action " ++ quoted a.id ++
      " permits an arbitrary recipient. A compromised agent with an arbitrary recipient is a " ++
        "drain, regardless of every other control.",
      "Use self-only, or a fixed allow-list of recipients the user named."⟩]
  | _ => []

/-! ## 3. Bindings, escalation and confidentiality -/

/-- The required bindings, each with its name, code, message and remediation. -/
def requiredBindings : List (CapabilityBinding × String × String × String × String) :=
  [(.nonce, "nonce", "BP-007",
      "Capability does not bind a nonce, so a spent capability can be replayed.",
      "EIP-712 provides no replay protection by itself. Bind an on-chain nonce."),
   (.expiry, "expiry", "BP-008",
      "Capability does not bind an expiry, so authority never lapses.",
      "Bind an expiry. Authority that cannot expire cannot be withdrawn by waiting."),
   (.chainId, "chainId", "BP-009",
      "Capability does not bind a chain id, so it is replayable across chains.",
      "Bind chainId into the signed payload."),
   (.target, "target", "BP-010", "Capability does not bind the call target.",
      "Bind the target so a capability authorizes one contract, not a class of them."),
   (.calldataHash, "calldataHash", "BP-010",
      "Capability does not bind the calldata, so the authorized amount and recipient are mutable.",
      "Bind a calldata hash. Without it, 'approved to transfer' means 'approved to transfer " ++
        "anything'.")]

def bindingIssues (bp : Blueprint) : List ValidationIssue :=
  requiredBindings.flatMap fun r =>
    issueIf (r.1 ∉ bp.capabilityPolicy.bindings)
      ⟨r.2.2.1, .CRITICAL, "capabilityPolicy.bindings." ++ r.2.1, r.2.2.2.1, r.2.2.2.2⟩

def bothKnown (related : Nat → Nat → Bool) (a b : Maybe Nat) : Bool :=
  a.value?.any fun x => b.value?.any fun y => related x y

def escalationIssues (bp : Blueprint) : List ValidationIssue :=
  issueIf (bothKnown (· ≤ ·) bp.escalationPolicy.maxValueUsdCents
      bp.autonomousPolicy.maxValueUsdCents)
    ⟨"BP-012", .HIGH, "escalationPolicy.maxValueUsdCents",
      "The escalation ceiling is at or below the autonomous limit, so the escalation band is " ++
        "empty or inverted.",
      "Set the escalation ceiling above the autonomous limit, or remove escalation entirely."⟩
  ++ issueIf (bothKnown (· < ·) bp.escalationPolicy.minValueUsdCents
      bp.autonomousPolicy.maxValueUsdCents)
    ⟨"BP-013", .HIGH, "escalationPolicy.minValueUsdCents",
      "The escalation band starts below the autonomous limit, leaving an overlap where two " ++
        "policies both apply.",
      "Make the escalation floor equal to the autonomous ceiling so exactly one policy governs " ++
        "each amount."⟩

def confidentialIssues (bp : Blueprint) : List ValidationIssue :=
  issueIf (bp.confidentialPolicy.required && bp.confidentialPolicy.placement = .none)
    ⟨"BP-014", .HIGH, "confidentialPolicy.placement",
      "Confidential policy is required but has no confidential placement, so the values would be " ++
        "evaluated in the clear.",
      "Place confidential evaluation in the CRE confidential handler."⟩
  ++ bp.triggers.flatMap fun t =>
    issueIf (t.thresholdIsConfidential && t.publicThreshold.any Maybe.isKnown)
      ⟨"BP-015", .CRITICAL, "triggers." ++ t.id ++ ".publicThreshold", "Trigger " ++ quoted t.id ++
        " is declared confidential but carries a public threshold value in the Blueprint, which " ++
        "is exported, rendered and reported.",
        "Remove the value. Keep only the parameter name; the value belongs in the confidential " ++
        "store."⟩

/-! ## 4. Permissions -/

def statementText (permissions : List Permission) : String :=
  " | ".intercalate (permissions.map fun p => toLowerCase p.statement)

def silenceIssues (bp : Blueprint) : List ValidationIssue :=
  ["withdraw", "arbitrary transfer", "arbitrary token approval"].flatMap fun hint =>
    issueIf (!includesText hint (statementText bp.permissions.denied) &&
        !includesText hint (statementText bp.permissions.allowed))
      ⟨"BP-018", .MEDIUM, "permissions.denied",
        "Neither the allow list nor the deny list mentions " ++ quoted hint ++ ". Silence here " ++
        "is ambiguous: it reads the same whether the user forbade it or nobody thought about it.",
        "State explicitly whether " ++ quoted hint ++ " is permitted."⟩

def OUTFLOW_HINTS : List String := ["withdraw", "transfer", "send", "approve", "borrow", "swap out"]

def actionOf (bp : Blueprint) (ref : String) : Option Action := bp.actions.find? fun a => a.id = ref

def undeclaredIssues (bp : Blueprint) : List ValidationIssue :=
  bp.autonomousPolicy.allowedActionRefs.flatMap fun ref =>
    issueIf (ref ∉ bp.actions.map Action.id)
      ⟨"BP-019", .CRITICAL, "autonomousPolicy.allowedActionRefs",
        "Autonomous policy permits action " ++ quoted ref ++ ", which is not a declared action.",
        "Remove the reference, or declare the action so its target and recipient policies are " ++
        "checked."⟩

def movesValueOut (a : Action) : Bool :=
  a.recipientPolicy ≠ .selfOnly &&
    OUTFLOW_HINTS.any fun hint => includesText hint (toLowerCase a.displayName)

def outflowIssues (bp : Blueprint) : List ValidationIssue :=
  bp.autonomousPolicy.allowedActionRefs.flatMap fun ref =>
    issueIf ((actionOf bp ref).any movesValueOut)
      ⟨"BP-020", .HIGH, "autonomousPolicy.allowedActionRefs." ++ ref, "Action " ++ quoted ref ++
        " moves value to a non-self recipient and is permitted autonomously.",
        "Route value-outflow actions through escalation, or restrict the recipient to self-only."⟩

/-- `\w`. -/
def wordChar (c : Char) : Bool := c.isAlphanum || c = '_'

/-- The word stands in the text, with no word character beside it. -/
def hasWord (word : List Char) : Option Char → List Char → Bool
  | before, [] => word = [] && !before.any wordChar
  | before, c :: cs =>
    (!before.any wordChar && word.isPrefixOf (c :: cs) &&
      !((c :: cs).drop word.length).head?.any wordChar) || hasWord word (some c) cs

def SCOPING_WORDS : List String :=
  ["arbitrary", "unlimited", "unbounded", "infinite", "blanket", "open-ended"]

/-- A blanket denial of token approvals. -/
def deniesApproval (p : Permission) : Bool :=
  let text := toLowerCase p.statement
  (includesText "approval" text || includesText "approve" text) &&
    !("unresolved:".toList.isPrefixOf text.toList) &&
    !SCOPING_WORDS.any fun word => hasWord word.toList none text.toList

def approvalIssues (bp : Blueprint) : List ValidationIssue :=
  if bp.permissions.denied.any deniesApproval then
    bp.actions.flatMap fun a =>
      issueIf (a.approvals ≠ [])
        ⟨"BP-028", .CRITICAL, "actions." ++ a.id ++ ".approvals", "Action " ++ quoted a.id ++
          " requires a token approval, but the permissions explicitly deny token approval " ++
          "rights. The Blueprint contradicts itself, and the deny list is the half that will not " ++
          "be enforced.",
          "Either scope the denial to *arbitrary/unlimited* approvals and say so, or remove the " ++
          "approval this action needs."⟩
  else []

/-- A stated permission names the action, or its statement shares a long word with its name. -/
def coveredBy (allowed : List Permission) (ref : String) (a : Action) : Bool :=
  let text := statementText allowed
  let name := toLowerCase a.displayName
  (allowed.any fun p => p.actionRef = some ref) || includesText name text ||
    ((name.toList.splitOnP isSpace).map String.ofList).any fun w =>
      4 < textLength w && includesText w text

def coverageIssues (bp : Blueprint) : List ValidationIssue :=
  bp.autonomousPolicy.allowedActionRefs.flatMap fun ref =>
    (actionOf bp ref).elim [] fun a =>
      issueIf (!coveredBy bp.permissions.allowed ref a)
        ⟨"BP-029", .HIGH, "autonomousPolicy.allowedActionRefs." ++ ref, "Action " ++ quoted ref ++
          " (" ++ a.displayName ++ ") runs autonomously but no stated permission covers it.",
          "State the permission explicitly, or remove the action from autonomous execution."⟩

def capIssues (bp : Blueprint) : List ValidationIssue :=
  bp.actions.flatMap fun a => a.approvals.flatMap fun ap =>
    issueIf (ap.maxAmountPolicy = .declaredCap && !bp.autonomousPolicy.maxValueUsdCents.isKnown)
      ⟨"BP-021", .HIGH, "actions." ++ a.id ++ ".approvals", "Action " ++ quoted a.id ++
        " approves up to a declared cap, but no cap is known.",
        "Resolve the autonomous limit, or approve only the exact action amount."⟩

/-! ## 5. Scenarios, modules and adapters -/

def BASELINE_SCENARIOS : List String :=
  ["NORMAL", "PROMPT_INJECTION", "AMOUNT_MUTATION", "RECIPIENT_MUTATION", "TARGET_MUTATION",
   "REPLAY", "ENS_REVOCATION", "STALE_CONTEXT", "POLICY_CHANGE", "RPC_FAILURE"]

def scenarioIssues (bp : Blueprint) : List ValidationIssue :=
  let missing := BASELINE_SCENARIOS.filter (· ∉ bp.simulationScenarios)
  issueIf (missing ≠ [])
    ⟨"BP-022", .MEDIUM, "simulationScenarios",
      "Baseline attack scenarios not covered: " ++ ", ".intercalate missing ++ ".",
      "Every generated agent carries the full baseline set. An uncovered attack is an untested " ++
        "one."⟩

def creIssues (bp : Blueprint) : List ValidationIssue :=
  issueIf (bp.cre.required && bp.cre.verdicts.length < 3)
    ⟨"BP-023", .HIGH, "cre.verdicts",
      "CRE is required but does not produce all three verdicts, collapsing the design back to " ++
        "binary authorization.",
      "Emit ALLOW, ESCALATE and DENY. Binary authorization forces every threshold to be a cliff."⟩

/-- No blocker is named, or one without a name. -/
def ledgerIssues (bp : Blueprint) : List ValidationIssue :=
  issueIf (bp.escalationPolicy.mechanism = .approvalRegistryStandin &&
      bp.ledger.blockerRef.getD "" = "")
    ⟨"BP-025", .MEDIUM, "ledger.blockerRef",
      "A stand-in approver is used but no blocker is referenced, so the substitution is " ++
        "undocumented.",
      "Reference the open hardware blocker so the stand-in is visible wherever the Blueprint is " ++
        "read."⟩

def moduleIssues (bp : Blueprint) : List ValidationIssue :=
  match bp.generatedModules.find? fun m => m.kind = "contextlock-core" with
  | none =>
    [⟨"BP-026", .HIGH, "generatedModules",
      "No contextlock-core module. The generated agent would carry its own security " ++
        "implementation.",
      "Compose the audited ContextLock core. Do not regenerate the reference monitor."⟩]
  | some core =>
    issueIf (!core.reusesContextLockCore)
      ⟨"BP-027", .CRITICAL, "generatedModules.contextlock-core.reusesContextLockCore",
        "The Blueprint would have the model regenerate ContextLock's core security " ++
          "implementation from scratch.",
        "Reuse the tested implementation. A freshly written reference monitor has no test " ++
          "history behind it."⟩

def bindingAdapterIssues (bp : Blueprint) (b : AdapterBinding) : List ValidationIssue :=
  issueIf (b.role ≠ .EXECUTION && b.configRef ∉ bp.dataRequirements.map DataRequirement.key)
    ⟨"BP-030", .HIGH, "adapters." ++ b.adapterId ++ ".configRef", "Adapter " ++
      quoted b.adapterId ++ " is bound to " ++ quoted b.configRef ++
      ", which is not a declared data requirement.",
      "Declare the requirement, or remove the binding. A binding with no requirement serves " ++
        "nothing."⟩
  ++ issueIf (!exactVersion b.adapterVersion)
    ⟨"BP-031", .CRITICAL, "adapters." ++ b.adapterId ++ ".adapterVersion", "Adapter " ++
      quoted b.adapterId ++ " is not pinned to an exact version (" ++ quoted b.adapterVersion ++
      ").",
      "Pin an exact version. A range lets a registry update silently change what this build runs."⟩

def requirementIssues (bp : Blueprint) (r : DataRequirement) : List ValidationIssue :=
  issueIf (!bp.adapters.any fun b => b.configRef = r.key)
    ⟨"BP-032", .CRITICAL, "dataRequirements." ++ r.key, "Data requirement " ++ quoted r.key ++
      " (" ++ r.kind ++ ", " ++ r.minimumTrustClass.text ++ ") has no adapter bound to it.",
      "Resolve an adapter for it, or remove the requirement. A policy waiting on an unsourced " ++
        "value fails closed at runtime, which is late."⟩
  ++ r.fallbackMaxAgeMs.elim [] fun maxAgeMs =>
    issueIf (r.maxAgeMs * 10 < maxAgeMs)
      ⟨"BP-033", .MEDIUM, "dataRequirements." ++ r.key ++ ".fallback.maxAgeMs", "Fallback for " ++
        quoted r.key ++ " tolerates " ++ toString maxAgeMs ++ "ms, more than ten times the " ++
        "primary bound of " ++ toString r.maxAgeMs ++ "ms.",
        "Tighten the fallback, or confirm that data this old is genuinely acceptable for this " ++
        "decision."⟩

/-! ## 6. The validation -/

/-- The issues of a Blueprint that the schema admits, rule by rule; the rules on its literal
    fields find nothing. -/
def ruleIssues (bp : Blueprint) : List (List ValidationIssue) :=
  [bp.perActionLimits.flatMap (perActionIssues bp.autonomousPolicy.maxValueUsdCents.value?
     bp.escalationPolicy.maxValueUsdCents.value? (bp.actions.map Action.id)),
   (executionNetworkPaths bp).flatMap networkIssues, bp.actions.flatMap (targetIssues bp),
   bp.actions.flatMap recipientIssues, bindingIssues bp, escalationIssues bp,
   confidentialIssues bp, silenceIssues bp, undeclaredIssues bp, outflowIssues bp,
   approvalIssues bp, coverageIssues bp, capIssues bp, scenarioIssues bp, creIssues bp,
   ledgerIssues bp, moduleIssues bp, bp.adapters.flatMap (bindingAdapterIssues bp),
   bp.dataRequirements.flatMap (requirementIssues bp)]

def blueprintIssues (bp : Blueprint) : List ValidationIssue := (ruleIssues bp).flatten

/-- `validateBlueprint`. What the schema refuses has issues of the schema, and is not looked at
    further. -/
def validateBlueprint (bp : Blueprint) : ValidationResult :=
  if !bp.fits then
    ⟨false, false, [⟨"BP-SCHEMA", .CRITICAL, "", "",
      "The Architecture Agent must emit a Blueprint matching contextlock.agent.blueprint/v1."⟩], []⟩
  else
    let issues := blueprintIssues bp
    let unknowns := buildBlockingUnknowns bp
    let hasBlocking := issues.any fun i => i.severity = .CRITICAL || i.severity = .HIGH
    ⟨issues.all (·.severity ≠ .CRITICAL), !hasBlocking && unknowns = [], issues, unknowns⟩

/-! ## 7. What a buildable Blueprint is -/

theorem buildable_iff {bp : Blueprint} : (validateBlueprint bp).buildable = true ↔
    bp.fits = true ∧ buildBlockingUnknowns bp = [] ∧
      ∀ i ∈ blueprintIssues bp, i.severity ≠ .CRITICAL ∧ i.severity ≠ .HIGH := by
  unfold validateBlueprint
  by_cases hfits : bp.fits = true
  · rw [hfits]
    simp only [Bool.not_true, Bool.false_eq_true, if_false, Bool.and_eq_true, Bool.not_eq_true',
      List.any_eq_false, Bool.or_eq_true, decide_eq_true_eq, not_or, ne_eq, true_and]
    exact and_comm
  · rw [Bool.not_eq_true] at hfits
    simp [hfits]

theorem mem_escalationIssues {bp : Blueprint} {i : ValidationIssue}
    (hi : i ∈ escalationIssues bp) : i ∈ blueprintIssues bp := by
  have hrule : escalationIssues bp ∈ ruleIssues bp :=
    .tail _ (.tail _ (.tail _ (.tail _ (.tail _ (.head _)))))
  exact List.mem_flatten.mpr ⟨_, hrule, hi⟩

/-- **The escalation ceiling stands above the autonomous limit**, where both are known. -/
theorem escalation_above_autonomous {bp : Blueprint} {auto cap : Nat}
    (h : (validateBlueprint bp).buildable = true)
    (hauto : bp.autonomousPolicy.maxValueUsdCents.value? = some auto)
    (hcap : bp.escalationPolicy.maxValueUsdCents.value? = some cap) : auto < cap := by
  obtain ⟨_, _, hissues⟩ := buildable_iff.mp h
  by_contra hle
  have hband : bothKnown (· ≤ ·) bp.escalationPolicy.maxValueUsdCents
      bp.autonomousPolicy.maxValueUsdCents = true := by
    rw [bothKnown, hauto, hcap]
    exact decide_eq_true (by omega)
  have hmem : ∃ i ∈ escalationIssues bp, i.severity = .HIGH := by
    unfold escalationIssues issueIf
    rw [hband, if_pos rfl]
    exact ⟨_, List.mem_append_left _ List.mem_cons_self, rfl⟩
  obtain ⟨i, hi, hhigh⟩ := hmem
  exact (hissues i (mem_escalationIssues hi)).2 hhigh

end ContextLock.Lab
