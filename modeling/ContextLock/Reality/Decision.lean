/-
  Subject:   One shadow evaluation, end to end.

  The context is checked, the policy is evaluated, a target is chosen, the action is compiled
  for it, and the executor is called. A run is what the executor was called with, and the
  decision or what was thrown.
-/
import ContextLock.Js.Schema
import ContextLock.Reality.Fork
import ContextLock.Reality.Snapshot

namespace ContextLock.Reality

open Js Network

/-! ## 1. Inputs and decisions -/

inductive ShadowVerdict where
  | ALLOW
  | ESCALATE
  | DENY
  | NO_VALID_CONTEXT
  deriving DecidableEq

def ShadowVerdict.text : ShadowVerdict → String
  | ALLOW => "ALLOW"
  | ESCALATE => "ESCALATE"
  | DENY => "DENY"
  | NO_VALID_CONTEXT => "NO_VALID_CONTEXT"

structure ActionDraft where
  kind : SemanticActionKind
  assetId : String
  counterAssetId : Option String
  amount : String
  decimals : Int
  protocol : String
  rationale : String

structure Evaluated where
  verdict : ShadowVerdict
  reasonCode : String
  action : ActionDraft

inductive ShadowTarget where
  | LOCAL_FORK
  | TESTNET

structure Executed where
  txHash : String
  label : String

/-- `ShadowRunInput`; what a function it injects throws is the message. -/
structure ShadowRunInput where
  decisionId : String
  snapshot : MarketSnapshot
  scenarioHash : Option String
  strategyRevision : Int
  blueprintRevision : Int
  creSimulationId : Option String
  maxContextAgeMs : Int
  nowMs : Int
  target : ShadowTarget
  fork : Option ForkDescriptor
  testnetChainId : Option Int
  evaluate : MarketSnapshot → Except String Evaluated
  protocolAddressFor : String → Int → Option String
  executeOnTarget : Option (CompiledIntent → Except String Executed)

inductive DecidedEnvironment where
  | LOCAL_FORK
  | TESTNET
  | NONE

structure SimulatedExecutionResult where
  executed : Bool
  txHash : Option String
  label : Option String
  detail : String

structure ShadowDecision where
  decisionId : String
  /-- The exact market picture this was decided against. -/
  marketSnapshotHash : String
  scenarioHash : Option String
  strategyRevision : Int
  blueprintRevision : Int
  creSimulationId : Option String
  verdict : ShadowVerdict
  reasonCode : String
  proposedMainnetSemanticAction : ActionDraft
  executionEnvironment : DecidedEnvironment
  environmentId : Option String
  executionChainId : Option Int
  simulatedExecutionResult : SimulatedExecutionResult
  decidedAtMs : Int

/-- What is thrown, with the values the messages name. -/
inductive ShadowRunError where
  | THROWN (message : String)
  | ACTION_INVALID
  | DECISION_INVALID
  | NO_FORK
  | NO_TARGET (chainId : Int) (role : Option NetworkRole)
  | FENCE (reason : ApprovedNetworkReason)
  | COMPILE (e : CompileError)

/-! ## 2. Schemas -/

/-- `SemanticActionSchema` accepts the draft. -/
structure ValidAction (a : ActionDraft) : Prop where
  assetId : a.assetId ≠ ""
  amount : DigitText a.amount
  decimals : 0 ≤ a.decimals ∧ a.decimals ≤ 36
  protocol : a.protocol ≠ ""
  rationale : a.rationale ≠ ""

instance decidableValidAction (a : ActionDraft) : Decidable (ValidAction a) :=
  decidable_of_iff (a.assetId ≠ "" ∧ DigitText a.amount ∧ (0 ≤ a.decimals ∧ a.decimals ≤ 36) ∧
      a.protocol ≠ "" ∧ a.rationale ≠ "")
    ⟨fun h => ⟨h.1, h.2.1, h.2.2.1, h.2.2.2.1, h.2.2.2.2⟩,
     fun h => ⟨h.assetId, h.amount, h.decimals, h.protocol, h.rationale⟩⟩

/-- `SemanticActionSchema.parse`. -/
def parseAction (a : ActionDraft) : Except ShadowRunError SemanticAction :=
  if h : ValidAction a then
    .ok ⟨a.kind, a.assetId, a.counterAssetId, a.amount, a.decimals.toNat, a.protocol, h.amount,
      Int.toNat_le.mpr h.decimals.2⟩
  else .error .ACTION_INVALID

/-- `z.string().regex(/^sha256:[0-9a-f]{64}$/)` accepts the text. -/
def IsDigest (s : String) : Prop := digestText s = .ok s

instance decidableIsDigest (s : String) : Decidable (IsDigest s) :=
  inferInstanceAs (Decidable (digestText s = .ok s))

/-- `z.number().int().nonnegative()` accepts the number. -/
def SafeNonnegative (n : Int) : Prop := 0 ≤ n ∧ n < 2 ^ 53

/-- `z.number().int().positive()` accepts the number. -/
def SafePositive (n : Int) : Prop := 0 < n ∧ n < 2 ^ 53

instance decidableSafeNonnegative (n : Int) : Decidable (SafeNonnegative n) :=
  inferInstanceAs (Decidable (0 ≤ n ∧ n < 2 ^ 53))

instance decidableSafePositive (n : Int) : Decidable (SafePositive n) :=
  inferInstanceAs (Decidable (0 < n ∧ n < 2 ^ 53))

/-- `ShadowDecisionSchema` accepts the decision. -/
def ValidDecision (d : ShadowDecision) : Prop :=
  d.decisionId ≠ "" ∧ IsDigest d.marketSnapshotHash ∧ (∀ h ∈ d.scenarioHash, IsDigest h) ∧
    SafeNonnegative d.strategyRevision ∧ SafeNonnegative d.blueprintRevision ∧
    SafePositive d.decidedAtMs ∧ d.reasonCode ≠ "" ∧ ValidAction d.proposedMainnetSemanticAction ∧
    ∀ chainId ∈ d.executionChainId, SafePositive chainId

instance decidableValidDecision (d : ShadowDecision) : Decidable (ValidDecision d) :=
  inferInstanceAs (Decidable (d.decisionId ≠ "" ∧ IsDigest d.marketSnapshotHash ∧
    (∀ h ∈ d.scenarioHash, IsDigest h) ∧ SafeNonnegative d.strategyRevision ∧
    SafeNonnegative d.blueprintRevision ∧ SafePositive d.decidedAtMs ∧ d.reasonCode ≠ "" ∧
    ValidAction d.proposedMainnetSemanticAction ∧ ∀ chainId ∈ d.executionChainId, SafePositive chainId))

/-- `ShadowDecisionSchema.parse`. -/
def parseDecision (d : ShadowDecision) : Except ShadowRunError ShadowDecision :=
  if ValidDecision d then .ok d else .error .DECISION_INVALID

/-! ## 3. The run -/

def shadowExecutionRef (target : ShadowTarget) (fork : Option ForkDescriptor)
    (testnetChainId : Option Int) : Except ShadowRunError NetworkRef :=
  match target with
  | .LOCAL_FORK =>
    match fork with
    | none => .error .NO_FORK
    | some fork => .ok (forkNetworkRef fork)
  | .TESTNET =>
    let chainId := testnetChainId.getD 11155111
    match lookupNetwork chainId with
    | none => .error (.NO_TARGET chainId none)
    | some net =>
      if net.role ≠ .TESTNET_EXECUTION then .error (.NO_TARGET chainId (some net.role))
      else .ok ⟨chainId, .TESTNET_EXECUTION, none, none⟩

namespace ShadowRunInput

variable (input : ShadowRunInput)

/-- A decision with the fields that every decision of the run has. -/
def decision (verdict : ShadowVerdict) (reasonCode : String) (action : ActionDraft)
    (environment : DecidedEnvironment) (environmentId : Option String) (chainId : Option Int)
    (result : SimulatedExecutionResult) : ShadowDecision where
  decisionId := input.decisionId
  marketSnapshotHash := input.snapshot.snapshotHash
  scenarioHash := input.scenarioHash
  strategyRevision := input.strategyRevision
  blueprintRevision := input.blueprintRevision
  creSimulationId := input.creSimulationId
  verdict := verdict
  reasonCode := reasonCode
  proposedMainnetSemanticAction := action
  executionEnvironment := environment
  environmentId := environmentId
  executionChainId := chainId
  simulatedExecutionResult := result
  decidedAtMs := input.nowMs

def withoutContext (message : String) : ShadowDecision :=
  input.decision .NO_VALID_CONTEXT "NO_VALID_CONTEXT" ⟨.NONE, "none", none, "0", 0, "none", message⟩
    .NONE none none ⟨false, none, none, message⟩

/-- The decision on any verdict but `ALLOW`. -/
def withoutExecution (e : Evaluated) : ShadowDecision :=
  input.decision e.verdict e.reasonCode e.action .NONE none none
    ⟨false, none, none, "policy returned " ++ e.verdict.text ++ "; nothing was executed anywhere"⟩

def environmentName : ExecutionEnvironment → String
  | .LOCAL_FORK => "LOCAL_FORK"
  | .TESTNET => "TESTNET"

/-- The decision on `ALLOW`, with what the executor returned if there is one. -/
def withIntent (e : Evaluated) (intent : CompiledIntent) (executed : Option Executed) :
    ShadowDecision :=
  let binding := intent.environmentBinding
  let environment :=
    if binding.executionEnvironment = .LOCAL_FORK then DecidedEnvironment.LOCAL_FORK else .TESTNET
  let detail :=
    match executed with
    | none => "no executor was supplied; the intent was compiled and not sent"
    | some _ => "executed on " ++ environmentName binding.executionEnvironment ++ " "
      ++ binding.environmentId
  input.decision .ALLOW e.reasonCode e.action environment (some binding.environmentId)
    (some intent.network.chainId)
    ⟨executed.isSome, executed.map Executed.txHash, executed.map Executed.label, detail⟩

def compiled (ASSETS : List CanonicalAsset) (action : SemanticAction) :
    Except ShadowRunError CompiledIntent :=
  match shadowExecutionRef input.target input.fork input.testnetChainId with
  | .error e => .error e
  | .ok network =>
    match assertShadowTargetAllowed network with
    | .error e => .error (.COMPILE e)
    | .ok _ =>
      match fenceWriteByChain network.chainId with
      | .error reason => .error (.FENCE reason)
      | .ok _ =>
        match compileForNetwork ASSETS input.protocolAddressFor action network
          (input.fork.map ForkDescriptor.forkId) with
        | .error e => .error (.COMPILE e)
        | .ok intent => .ok intent

end ShadowRunInput

/-- What the executor was called with, and what the run came to. -/
structure ShadowRun where
  executed : Option CompiledIntent
  decision : Except ShadowRunError ShadowDecision

def runShadowDecision (ASSETS : List CanonicalAsset) (input : ShadowRunInput) : ShadowRun :=
  match assertSnapshotUsable input.snapshot.toSnapshotBody input.nowMs input.maxContextAgeMs
    ("shadow decision " ++ input.decisionId) with
  | .error e => ⟨none, parseDecision (input.withoutContext e.message)⟩
  | .ok _ =>
    match input.evaluate input.snapshot with
    | .error message => ⟨none, .error (.THROWN message)⟩
    | .ok evaluated =>
      match parseAction evaluated.action with
      | .error e => ⟨none, .error e⟩
      | .ok action =>
        if evaluated.verdict ≠ .ALLOW then ⟨none, parseDecision (input.withoutExecution evaluated)⟩
        else
          match input.compiled ASSETS action with
          | .error e => ⟨none, .error e⟩
          | .ok intent =>
            match input.executeOnTarget with
            | none => ⟨none, parseDecision (input.withIntent evaluated intent none)⟩
            | some execute =>
              match execute intent with
              | .error message => ⟨some intent, .error (.THROWN message)⟩
              | .ok result =>
                ⟨some intent, parseDecision (input.withIntent evaluated intent (some result))⟩

/-! ## 4. When the executor is called, and when there is a decision -/

section Runs

variable {ASSETS : List CanonicalAsset} {input : ShadowRunInput} {intent : CompiledIntent}
  {e : Evaluated} {action : SemanticAction}

/-- The fields that every decision has are accepted by its schema. -/
def Recordable (input : ShadowRunInput) : Prop :=
  input.decisionId ≠ "" ∧ IsDigest input.snapshot.snapshotHash ∧
    (∀ h ∈ input.scenarioHash, IsDigest h) ∧ SafeNonnegative input.strategyRevision ∧
    SafeNonnegative input.blueprintRevision ∧ SafePositive input.nowMs

def ShadowRunInput.Context (input : ShadowRunInput) : Prop :=
  Usable input.snapshot.toSnapshotBody input.nowMs input.maxContextAgeMs

/-- The policy returned this, with this action. -/
def ShadowRunInput.Evaluates (input : ShadowRunInput) (e : Evaluated) (action : SemanticAction) :
    Prop :=
  input.evaluate input.snapshot = .ok e ∧ parseAction e.action = .ok action

/-- The run gets as far as the executor, with this intent. -/
structure Executes (ASSETS : List CanonicalAsset) (input : ShadowRunInput) (intent : CompiledIntent) :
    Prop where
  context : input.Context
  executor : input.executeOnTarget ≠ none
  compiled : ∃ e action, input.Evaluates e action ∧ e.verdict = .ALLOW ∧
    input.compiled ASSETS action = .ok intent

/-- The run gets as far as a decision. -/
def Decides (ASSETS : List CanonicalAsset) (input : ShadowRunInput) : Prop :=
  Recordable input ∧ (¬ input.Context ∨ ∃ e action, input.Evaluates e action ∧ e.reasonCode ≠ "" ∧
    (e.verdict ≠ .ALLOW ∨ ∃ intent, input.compiled ASSETS action = .ok intent ∧
      ∀ execute ∈ input.executeOnTarget, ∃ result, execute intent = .ok result))

theorem parseAction_ok (h : parseAction e.action = .ok action) : ValidAction e.action := by
  unfold parseAction at h
  by_cases hvalid : ValidAction e.action
  · exact hvalid
  · rw [dif_neg hvalid] at h
    cases h

theorem parseDecision_ok {d d' : ShadowDecision} :
    parseDecision d = .ok d' ↔ ValidDecision d ∧ d = d' := by
  unfold parseDecision
  by_cases hvalid : ValidDecision d
  · simp [hvalid]
  · simp [hvalid]

theorem validDecision_iff {verdict : ShadowVerdict} {reasonCode : String} {a : ActionDraft}
    {environment : DecidedEnvironment} {environmentId : Option String} {chainId : Option Int}
    {result : SimulatedExecutionResult} :
    ValidDecision (input.decision verdict reasonCode a environment environmentId chainId result) ↔
      Recordable input ∧ reasonCode ≠ "" ∧ ValidAction a ∧ ∀ c ∈ chainId, SafePositive c := by
  unfold ValidDecision Recordable ShadowRunInput.decision
  tauto

theorem message_ne_empty (e : SnapshotError) : e.message ≠ "" := by
  intro h
  have hlist := congrArg String.toList h
  simp [SnapshotError.message] at hlist

theorem valid_withoutContext (error : SnapshotError) :
    ValidDecision (input.withoutContext error.message) ↔ Recordable input := by
  unfold ShadowRunInput.withoutContext
  rw [validDecision_iff]
  have haction : ValidAction ⟨.NONE, "none", none, "0", 0, "none", error.message⟩ :=
    ⟨(by decide : "none" ≠ ""), (by decide : DigitText "0"), (by decide : (0 : Int) ≤ 0 ∧ (0 : Int) ≤ 36),
      (by decide : "none" ≠ ""), message_ne_empty error⟩
  exact and_iff_left ⟨by decide, haction, fun _ hc => by cases hc⟩

theorem valid_withoutExecution (haction : ValidAction e.action) :
    ValidDecision (input.withoutExecution e) ↔ Recordable input ∧ e.reasonCode ≠ "" := by
  unfold ShadowRunInput.withoutExecution
  rw [validDecision_iff]
  have hrest : ValidAction e.action ∧ ∀ c ∈ (none : Option Int), SafePositive c :=
    ⟨haction, fun _ hc => by cases hc⟩
  rw [and_iff_left hrest]

/-- The networks a target stands for are approved, and their chains are positive numbers. -/
theorem shadowExecutionRef_ok {network : NetworkRef}
    (h : shadowExecutionRef input.target input.fork input.testnetChainId = .ok network) :
    (∃ fork, input.target = .LOCAL_FORK ∧ input.fork = some fork ∧ network = forkNetworkRef fork) ∨
      (input.target = .TESTNET ∧ network.role = .TESTNET_EXECUTION ∧
        ∃ n, lookupNetwork network.chainId = some n ∧ n.role = .TESTNET_EXECUTION) := by
  unfold shadowExecutionRef at h
  cases htarget : input.target with
  | LOCAL_FORK =>
    cases hfork : input.fork with
    | none =>
      simp only [htarget, hfork] at h
      cases h
    | some fork =>
      simp only [htarget, hfork, Except.ok.injEq] at h
      exact .inl ⟨fork, rfl, rfl, h.symm⟩
  | TESTNET =>
    cases hnet : lookupNetwork (input.testnetChainId.getD 11155111) with
    | none =>
      simp only [htarget, hnet] at h
      cases h
    | some net =>
      simp only [htarget, hnet, Evm.ite_error_eq_ok, not_not, Except.ok.injEq] at h
      obtain ⟨hrole, rfl⟩ := h
      exact .inr ⟨rfl, rfl, net, hnet, hrole⟩

theorem safePositive_of_lookup {chainId : Int} {n : ApprovedNetwork}
    (h : lookupNetwork chainId = some n) : SafePositive chainId := by
  have hmem : n ∈ APPROVED := List.mem_of_find?_eq_some h
  have hchain : n.chainId = chainId := by simpa using List.find?_some h
  have hall : ∀ a ∈ APPROVED, SafePositive a.chainId := by decide
  exact hchain ▸ hall n hmem

theorem compiled_ok (h : input.compiled ASSETS action = .ok intent) :
    ∃ network, shadowExecutionRef input.target input.fork input.testnetChainId = .ok network ∧
      intent.network = network ∧
        intent.environmentBinding =
          environmentBindingOf network (input.fork.map ForkDescriptor.forkId) := by
  unfold ShadowRunInput.compiled at h
  cases href : shadowExecutionRef input.target input.fork input.testnetChainId with
  | error _ =>
    rw [href] at h
    cases h
  | ok network =>
    cases hallowed : assertShadowTargetAllowed network with
    | error _ =>
      simp only [href, hallowed] at h
      cases h
    | ok _ =>
      cases hfence : fenceWriteByChain network.chainId with
      | error _ =>
        simp only [href, hallowed, hfence] at h
        cases h
      | ok _ =>
        cases hcompile : compileForNetwork ASSETS input.protocolAddressFor action network
            (input.fork.map ForkDescriptor.forkId) with
        | error _ =>
          simp only [href, hallowed, hfence, hcompile] at h
          cases h
        | ok compiled =>
          simp only [href, hallowed, hfence, hcompile] at h
          cases h
          obtain ⟨_, _, _, rfl⟩ := compileForNetwork_ok.mp hcompile
          exact ⟨network, rfl, rfl, rfl⟩

theorem safePositive_compiled (h : input.compiled ASSETS action = .ok intent) :
    SafePositive intent.network.chainId := by
  obtain ⟨network, href, rfl, -⟩ := compiled_ok h
  rcases shadowExecutionRef_ok href with ⟨fork, -, -, hnetwork⟩ | ⟨-, -, n, hn, -⟩
  · rw [hnetwork]
    exact (by decide : SafePositive 31337)
  · exact safePositive_of_lookup hn

theorem valid_withIntent (haction : ValidAction e.action)
    (hcompiled : input.compiled ASSETS action = .ok intent) (executed : Option Executed) :
    ValidDecision (input.withIntent e intent executed) ↔ Recordable input ∧ e.reasonCode ≠ "" := by
  unfold ShadowRunInput.withIntent
  rw [validDecision_iff]
  have hchain : ∀ c ∈ some intent.network.chainId, SafePositive c := by
    intro c hc
    cases hc
    exact safePositive_compiled hcompiled
  rw [and_iff_left (⟨haction, hchain⟩ : ValidAction e.action ∧ _)]

theorem Evaluates.unique {e' : Evaluated} {action' : SemanticAction} (h : input.Evaluates e action)
    (h' : input.Evaluates e' action') : e = e' ∧ action = action' := by
  obtain ⟨heval, hparse⟩ := h
  obtain ⟨heval', hparse'⟩ := h'
  rw [heval] at heval'
  cases heval'
  rw [hparse] at hparse'
  cases hparse'
  exact ⟨rfl, rfl⟩

/-- The ways a run can go, each with what it found. -/
inductive Ran (ASSETS : List CanonicalAsset) (input : ShadowRunInput) : ShadowRun → Prop
  | noContext (error : SnapshotError) (h : ¬ input.Context) :
    Ran ASSETS input ⟨none, parseDecision (input.withoutContext error.message)⟩
  | policyThrew (message : String) (h : input.Context)
    (heval : input.evaluate input.snapshot = .error message) :
    Ran ASSETS input ⟨none, .error (.THROWN message)⟩
  | actionInvalid (e : Evaluated) (error : ShadowRunError) (h : input.Context)
    (heval : input.evaluate input.snapshot = .ok e) (hparse : parseAction e.action = .error error) :
    Ran ASSETS input ⟨none, .error error⟩
  | notAllowed (e : Evaluated) (action : SemanticAction) (h : input.Context)
    (heval : input.Evaluates e action) (hverdict : e.verdict ≠ .ALLOW) :
    Ran ASSETS input ⟨none, parseDecision (input.withoutExecution e)⟩
  | notCompiled (e : Evaluated) (action : SemanticAction) (error : ShadowRunError) (h : input.Context)
    (heval : input.Evaluates e action) (hverdict : e.verdict = .ALLOW)
    (hcompiled : input.compiled ASSETS action = .error error) :
    Ran ASSETS input ⟨none, .error error⟩
  | notSent (e : Evaluated) (action : SemanticAction) (intent : CompiledIntent) (h : input.Context)
    (heval : input.Evaluates e action) (hverdict : e.verdict = .ALLOW)
    (hcompiled : input.compiled ASSETS action = .ok intent) (hnone : input.executeOnTarget = none) :
    Ran ASSETS input ⟨none, parseDecision (input.withIntent e intent none)⟩
  | sendThrew (e : Evaluated) (action : SemanticAction) (intent : CompiledIntent)
    (execute : CompiledIntent → Except String Executed) (message : String) (h : input.Context)
    (heval : input.Evaluates e action) (hverdict : e.verdict = .ALLOW)
    (hcompiled : input.compiled ASSETS action = .ok intent)
    (hsome : input.executeOnTarget = some execute) (hthrew : execute intent = .error message) :
    Ran ASSETS input ⟨some intent, .error (.THROWN message)⟩
  | sent (e : Evaluated) (action : SemanticAction) (intent : CompiledIntent)
    (execute : CompiledIntent → Except String Executed) (result : Executed) (h : input.Context)
    (heval : input.Evaluates e action) (hverdict : e.verdict = .ALLOW)
    (hcompiled : input.compiled ASSETS action = .ok intent)
    (hsome : input.executeOnTarget = some execute) (hresult : execute intent = .ok result) :
    Ran ASSETS input ⟨some intent, parseDecision (input.withIntent e intent (some result))⟩

theorem ran (ASSETS : List CanonicalAsset) (input : ShadowRunInput) :
    Ran ASSETS input (runShadowDecision ASSETS input) := by
  unfold runShadowDecision
  cases hcontext : assertSnapshotUsable input.snapshot.toSnapshotBody input.nowMs
      input.maxContextAgeMs ("shadow decision " ++ input.decisionId) with
  | error error =>
    refine .noContext error fun h => ?_
    rw [assertSnapshotUsable_ok_iff.mpr h] at hcontext
    cases hcontext
  | ok _ =>
    have h : input.Context := assertSnapshotUsable_ok_iff.mp hcontext
    cases heval : input.evaluate input.snapshot with
    | error message => exact .policyThrew message h heval
    | ok e =>
      dsimp only
      cases hparse : parseAction e.action with
      | error error => exact .actionInvalid e error h heval hparse
      | ok action =>
        dsimp only
        by_cases hverdict : e.verdict = .ALLOW
        · rw [if_neg (not_not.mpr hverdict)]
          cases hcompiled : input.compiled ASSETS action with
          | error error =>
            exact .notCompiled e action error h ⟨heval, hparse⟩ hverdict hcompiled
          | ok intent =>
            dsimp only
            cases hexecutor : input.executeOnTarget with
            | none => exact .notSent e action intent h ⟨heval, hparse⟩ hverdict hcompiled hexecutor
            | some execute =>
              dsimp only
              cases hresult : execute intent with
              | error message =>
                exact .sendThrew e action intent execute message h ⟨heval, hparse⟩ hverdict
                  hcompiled hexecutor hresult
              | ok result =>
                exact .sent e action intent execute result h ⟨heval, hparse⟩ hverdict
                  hcompiled hexecutor hresult
        · rw [if_pos hverdict]
          exact .notAllowed e action h ⟨heval, hparse⟩ hverdict

/-- **When the executor is called.** -/
theorem executed_iff : (runShadowDecision ASSETS input).executed = some intent ↔
    Executes ASSETS input intent := by
  have hran := ran ASSETS input
  generalize runShadowDecision ASSETS input = run at hran ⊢
  constructor
  · intro hexecuted
    cases hran with
    | noContext | policyThrew | actionInvalid | notAllowed | notCompiled | notSent => cases hexecuted
    | sendThrew e action intent execute message h heval hverdict hcompiled hsome hthrew =>
      cases hexecuted
      exact ⟨h, by simp [hsome], e, action, heval, hverdict, hcompiled⟩
    | sent e action intent execute result h heval hverdict hcompiled hsome hresult =>
      cases hexecuted
      exact ⟨h, by simp [hsome], e, action, heval, hverdict, hcompiled⟩
  · intro hexecutes
    obtain ⟨e, action, heval, hverdict, hcompiled⟩ := hexecutes.compiled
    -- Each other way of the run misses something the executor needs.
    cases hran with
    | noContext error h => exact absurd hexecutes.context h
    | policyThrew message h herror => cases heval.1.symm.trans herror
    | actionInvalid e' error h heval' hparse =>
      cases heval.1.symm.trans heval'
      cases heval.2.symm.trans hparse
    | notAllowed e' action' h heval' hdenied =>
      obtain ⟨rfl, rfl⟩ := Evaluates.unique heval heval'
      exact absurd hverdict hdenied
    | notCompiled e' action' error h heval' hallowed herror =>
      obtain ⟨rfl, rfl⟩ := Evaluates.unique heval heval'
      cases hcompiled.symm.trans herror
    | notSent e' action' intent' h heval' hallowed hcompiled' hnone =>
      exact absurd hnone hexecutes.executor
    | sendThrew e' action' intent' execute message h heval' hallowed hcompiled'
    | sent e' action' intent' execute result h heval' hallowed hcompiled' =>
      obtain ⟨rfl, rfl⟩ := Evaluates.unique heval heval'
      cases hcompiled.symm.trans hcompiled'
      rfl

theorem decides_iff (h : input.Context) (heval : input.Evaluates e action) :
    Decides ASSETS input ↔ (Recordable input ∧ e.reasonCode ≠ "") ∧
      (e.verdict ≠ .ALLOW ∨ ∃ intent, input.compiled ASSETS action = .ok intent ∧
        ∀ execute ∈ input.executeOnTarget, ∃ result, execute intent = .ok result) := by
  constructor
  · intro hdecides
    obtain ⟨hrecordable, hno | ⟨e', action', heval', hreason, hrest⟩⟩ := hdecides
    · exact absurd h hno
    · obtain ⟨rfl, rfl⟩ := Evaluates.unique heval heval'
      exact ⟨⟨hrecordable, hreason⟩, hrest⟩
  · intro hdecides
    obtain ⟨⟨hrecordable, hreason⟩, hrest⟩ := hdecides
    exact ⟨hrecordable, .inr ⟨e, action, heval, hreason, hrest⟩⟩

/-- **When there is a decision.** -/
theorem decided_iff : (∃ d, (runShadowDecision ASSETS input).decision = .ok d) ↔
    Decides ASSETS input := by
  have hran := ran ASSETS input
  generalize runShadowDecision ASSETS input = run at hran ⊢
  have hparsed : ∀ d, (∃ d', parseDecision d = .ok d') ↔ ValidDecision d := fun d =>
    ⟨fun h => (parseDecision_ok.mp h.choose_spec).1, fun h => ⟨d, parseDecision_ok.mpr ⟨h, rfl⟩⟩⟩
  have hthrown : ∀ error : ShadowRunError,
      ¬ ∃ d : ShadowDecision, (Except.error error : Except ShadowRunError ShadowDecision) = .ok d := by
    intro error h
    cases h.choose_spec
  cases hran with
  | noContext error h =>
    simp only [Decides, hparsed, valid_withoutContext, h, not_false_eq_true, true_or, and_true]
  | policyThrew message h herror =>
    refine iff_of_false (hthrown _) fun hdecides => ?_
    rcases hdecides.2 with hno | ⟨e, action, heval, -⟩
    · exact hno h
    · cases heval.1.symm.trans herror
  | actionInvalid e error h heval hparse =>
    refine iff_of_false (hthrown _) fun hdecides => ?_
    rcases hdecides.2 with hno | ⟨e', action, heval', -⟩
    · exact hno h
    · cases heval'.1.symm.trans heval
      cases heval'.2.symm.trans hparse
  | notAllowed e action h heval hverdict =>
    rw [hparsed, valid_withoutExecution (parseAction_ok heval.2), decides_iff h heval,
      and_iff_left (Or.inl hverdict)]
  | notCompiled e action error h heval hverdict hcompiled =>
    refine iff_of_false (hthrown _) fun hdecides => ?_
    rcases ((decides_iff h heval).mp hdecides).2 with hdenied | ⟨intent, hintent, -⟩
    · exact hdenied hverdict
    · cases hintent.symm.trans hcompiled
  | notSent e action intent h heval hverdict hcompiled hnone =>
    rw [hparsed, valid_withIntent (parseAction_ok heval.2) hcompiled, decides_iff h heval]
    refine (and_iff_left (Or.inr ⟨intent, hcompiled, fun execute hexecute => ?_⟩)).symm
    rw [hnone] at hexecute
    cases hexecute
  | sendThrew e action intent execute message h heval hverdict hcompiled hsome hthrew =>
    refine iff_of_false (hthrown _) fun hdecides => ?_
    rcases ((decides_iff h heval).mp hdecides).2 with hdenied | ⟨intent', hintent, hall⟩
    · exact hdenied hverdict
    · cases hintent.symm.trans hcompiled
      obtain ⟨result, hresult⟩ := hall execute hsome
      cases hresult.symm.trans hthrew
  | sent e action intent execute result h heval hverdict hcompiled hsome hresult =>
    rw [hparsed, valid_withIntent (parseAction_ok heval.2) hcompiled, decides_iff h heval]
    refine (and_iff_left (Or.inr ⟨intent, hcompiled, fun execute' hexecute => ?_⟩)).symm
    cases hsome.symm.trans hexecute
    exact ⟨result, hresult⟩

theorem cites_carried {d : ShadowDecision}
    (h : (runShadowDecision ASSETS input).decision = .ok d) :
    d.marketSnapshotHash = input.snapshot.snapshotHash := by
  have hran := ran ASSETS input
  generalize runShadowDecision ASSETS input = run at hran h
  cases hran with
  | policyThrew | actionInvalid | notCompiled | sendThrew => cases h
  | noContext | notAllowed | notSent | sent =>
    obtain ⟨-, rfl⟩ := parseDecision_ok.mp h
    rfl

end Runs

/-! ## 5. Lawful decisions -/

section Lawful

variable (localeCompare : String → String → Int) (ASSETS : List CanonicalAsset)
  (input : ShadowRunInput)

def LiveFork (nowMs : Int) (fork : ForkDescriptor) : Prop :=
  fork.state = .READY ∧ nowMs ≤ fork.expiresAtMs

/-- The intent is for a live fork of the input, or for an approved testnet. -/
def OnTarget (intent : CompiledIntent) : Prop :=
  (∃ fork, input.target = .LOCAL_FORK ∧ input.fork = some fork ∧ LiveFork input.nowMs fork ∧
    intent.network = forkNetworkRef fork ∧ intent.environmentBinding.environmentId = fork.forkId) ∨
  (input.target = .TESTNET ∧ ∃ n, lookupNetwork intent.network.chainId = some n ∧
    n.role = .TESTNET_EXECUTION)

/-- What a run is to be: its decision cites the snapshot that was evaluated, and the executor is
    called on `ALLOW` only, with a context that is neither too old nor dated in the future, and on
    a live target. -/
structure ShadowLaw : Prop where
  cited : ∀ d, (runShadowDecision ASSETS input).decision = .ok d →
    d.marketSnapshotHash = computeSnapshotHash localeCompare input.snapshot.toSnapshotBody
  executed : ∀ intent, (runShadowDecision ASSETS input).executed = some intent →
    (∃ e, input.evaluate input.snapshot = .ok e ∧ e.verdict = .ALLOW) ∧
      input.nowMs - input.snapshot.observedAtMs ≤ input.maxContextAgeMs ∧
      input.snapshot.observedAtMs ≤ input.nowMs ∧ OnTarget input intent

variable {ASSETS input}

theorem onTarget_iff {intent : CompiledIntent} (h : Executes ASSETS input intent) :
    OnTarget input intent ↔
      (input.target = .LOCAL_FORK → ∀ fork ∈ input.fork, LiveFork input.nowMs fork) := by
  obtain ⟨e, action, -, -, hcompiled⟩ := h.compiled
  obtain ⟨network, href, rfl, hbinding⟩ := compiled_ok hcompiled
  unfold OnTarget
  rcases shadowExecutionRef_ok href with ⟨fork, htarget, hfork, hnetwork⟩ | ⟨htarget, -, hnet⟩
  · constructor
    · intro hon
      rcases hon with ⟨fork', -, hfork', hlive, -⟩ | ⟨htestnet, -⟩
      · intro _ fork'' hfork''
        cases hfork'.symm.trans hfork''
        exact hlive
      · rw [htarget] at htestnet
        cases htestnet
    · intro hlive
      refine .inl ⟨fork, htarget, hfork, hlive htarget fork hfork, hnetwork, ?_⟩
      rw [hbinding, hnetwork, hfork]
      rfl
  · refine iff_of_true (.inr ⟨htarget, hnet⟩) fun hlocal => ?_
    rw [htarget] at hlocal
    cases hlocal

theorem sealed_of_law {localeCompare : String → String → Int}
    (hlaw : ShadowLaw localeCompare ASSETS input) (hdecides : Decides ASSETS input) :
    Sealed localeCompare input.snapshot := by
  obtain ⟨d, hd⟩ := decided_iff.mpr hdecides
  exact (cites_carried hd).symm.trans (hlaw.cited d hd)

variable (ASSETS input)

/-- **Exactly when a shadow run is lawful**: where it gets as far as a decision, the snapshot must
    carry the hash of its contents; and where it gets as far as the executor, the snapshot must not
    be dated in the future, and a fork that is the target must be READY and unexpired. -/
theorem shadow_lawful_iff : ShadowLaw localeCompare ASSETS input ↔
    (Decides ASSETS input → Sealed localeCompare input.snapshot) ∧
      ((∃ intent, Executes ASSETS input intent) →
        input.snapshot.observedAtMs ≤ input.nowMs ∧
          (input.target = .LOCAL_FORK → ∀ fork ∈ input.fork, LiveFork input.nowMs fork)) := by
  constructor
  · intro hlaw
    refine ⟨sealed_of_law hlaw, fun hexecutes => ?_⟩
    obtain ⟨intent, hintent⟩ := hexecutes
    obtain ⟨-, -, hnow, htarget⟩ := hlaw.executed intent (executed_iff.mpr hintent)
    exact ⟨hnow, (onTarget_iff hintent).mp htarget⟩
  · intro h
    obtain ⟨hsealed, hlive⟩ := h
    refine ⟨fun d hd => (cites_carried hd).trans (hsealed (decided_iff.mp ⟨d, hd⟩)), ?_⟩
    intro intent hexecuted
    have hintent := executed_iff.mp hexecuted
    obtain ⟨hnow, htarget⟩ := hlive ⟨intent, hintent⟩
    obtain ⟨e, action, heval, hverdict, -⟩ := hintent.compiled
    exact ⟨⟨e, heval.1, hverdict⟩, hintent.context.age, hnow, (onTarget_iff hintent).mpr htarget⟩

end Lawful

/-! ## 6. A run that is not -/

def priceSource : SnapshotSource where
  sourceId := "chainlink-eth-usd"
  kind := .CHAINLINK_DATA_FEED
  adapterId := "chainlink-data-feeds"
  adapterVersion := "1.0.0"
  trustClass := .VERIFIED_ORACLE
  sourceChainId := 1
  timeSupport := .BLOCK_SCOPED
  observedBlock := some "23000000"
  lagBlocks := none
  healthy := true

def priceObservation : MarketObservation where
  observationId := "weth-usd"
  metric := "weth/usd:price"
  value := "243442000000"
  decimals := 8
  unit := "USD"
  dataType := .PRICE
  canonicalAssetId := some "weth"
  sourceId := "chainlink-eth-usd"
  sourceChainId := 1
  blockNumber := some "23000000"
  sourceTimestampMs := some 1760000000000
  retrievedAtMs := 1760000000000
  trustClass := .VERIFIED_ORACLE
  adapterId := "chainlink-data-feeds"
  adapterVersion := "1.0.0"
  derivedFrom := none
  provenance := "latestRoundData"

def priceSnapshot (snapshotHash : String) : MarketSnapshot where
  snapshotId := "snap-1"
  mode := .LIVE_MIRROR
  observedAtMs := 1760000000000
  anchorChainId := 1
  anchorBlock := "23000000"
  anchorBlockHash := "0x" ++ String.ofList (List.replicate 64 'a')
  anchorBlockTimestampMs := 1760000000000
  sources := [priceSource]
  observations := [priceObservation]
  canonicalAssetIds := ["weth"]
  coherence := ⟨0, none, [], true, none⟩
  supersedes := none
  snapshotHash := snapshotHash

/-- A fork that was destroyed, an hour after its lifetime. -/
def destroyedFork : ForkDescriptor where
  forkId := "fork-0123456789ab"
  sourceChainId := 1
  forkBlock := "23000000"
  forkBlockHash := "0x" ++ String.ofList (List.replicate 64 'a')
  sourceProviderId := "publicnode"
  anvilVersion := "anvil/v1.2.3"
  endpoint := "http://127.0.0.1:8545"
  createdAtMs := 1759994600000
  expiresAtMs := 1759996400000
  state := .DESTROYED

def supplyDraft : ActionDraft :=
  ⟨.SUPPLY, "usdc", none, "1000000", 6, "aave-v3", "idle balance above target"⟩

def approvingInput (snapshotHash : String) (nowMs : Int) (fork : ForkDescriptor) : ShadowRunInput where
  decisionId := "d1"
  snapshot := priceSnapshot snapshotHash
  scenarioHash := none
  strategyRevision := 1
  blueprintRevision := 1
  creSimulationId := none
  maxContextAgeMs := 600000
  nowMs := nowMs
  target := .LOCAL_FORK
  fork := some fork
  testnetChainId := none
  evaluate := fun _ => .ok ⟨.ALLOW, "ALLOW_POLICY_MATCH", supplyDraft⟩
  protocolAddressFor := fun _ _ => some "0x87870Bca3F3fD6335C3F4ce8392D69350B4fA4E2"
  executeOnTarget := some fun _ =>
    .ok ⟨"0x" ++ String.ofList (List.replicate 64 'b'), "LOCAL FORK TRANSACTION"⟩

def sameDigits (c : Char) : String := "sha256:" ++ String.ofList (List.replicate 64 c)

def supplyAction : SemanticAction :=
  supplyUsdc "1000000" 6 (by decide) (by decide)

theorem evaluates_approvingInput (snapshotHash : String) (nowMs : Int) (fork : ForkDescriptor) :
    (approvingInput snapshotHash nowMs fork).Evaluates ⟨.ALLOW, "ALLOW_POLICY_MATCH", supplyDraft⟩
      supplyAction := by
  have hvalid : ValidAction supplyDraft := by decide
  exact ⟨rfl, dif_pos hvalid⟩

theorem compiled_approvingInput (snapshotHash : String) (nowMs : Int) (fork : ForkDescriptor)
    (hfork : fork.sourceChainId = 1) :
    (approvingInput snapshotHash nowMs fork).compiled [usdc] supplyAction = .ok
      (intentOf supplyAction (forkNetworkRef fork) (some fork.forkId)
        ⟨1, "0xA0b86991c6218b36c1d19D4a2e9Eb0cE3606eB48", 6⟩ none) := by
  have hchain : addressChainId (forkNetworkRef fork) = 1 := hfork
  have hcompile : compileForNetwork [usdc]
      (fun _ _ => some "0x87870Bca3F3fD6335C3F4ce8392D69350B4fA4E2") supplyAction
        (forkNetworkRef fork) (some fork.forkId) = .ok
      (intentOf supplyAction (forkNetworkRef fork) (some fork.forkId)
        ⟨1, "0xA0b86991c6218b36c1d19D4a2e9Eb0cE3606eB48", 6⟩ none) := by
    refine compileForNetwork_ok.mpr ⟨_, none, ⟨rfl, ?_, rfl, ?_⟩, rfl⟩
    · rw [hchain]
      rfl
    · exact (by decide : "0x87870Bca3F3fD6335C3F4ce8392D69350B4fA4E2" ≠ "")
  have hallowed : assertShadowTargetAllowed (forkNetworkRef fork) = .ok () := rfl
  have hfence : fenceWriteByChain (forkNetworkRef fork).chainId = .ok ⟨31337, .LOCAL_FORK⟩ := rfl
  unfold ShadowRunInput.compiled
  have href : shadowExecutionRef (approvingInput snapshotHash nowMs fork).target
      (approvingInput snapshotHash nowMs fork).fork
        (approvingInput snapshotHash nowMs fork).testnetChainId = .ok (forkNetworkRef fork) := rfl
  rw [href]
  simp only [hallowed, hfence]
  have hargs : compileForNetwork [usdc] (approvingInput snapshotHash nowMs fork).protocolAddressFor
      supplyAction (forkNetworkRef fork)
        ((approvingInput snapshotHash nowMs fork).fork.map ForkDescriptor.forkId) = .ok
      (intentOf supplyAction (forkNetworkRef fork) (some fork.forkId)
        ⟨1, "0xA0b86991c6218b36c1d19D4a2e9Eb0cE3606eB48", 6⟩ none) := hcompile
  rw [hargs]

def byCodeUnits (a b : String) : Int := if a = b then 0 else if textLe a b then -1 else 1

/-- **Executed on a destroyed fork.** At five to the time of the snapshot, the executor is called
    for a fork that was destroyed and has long expired. -/
theorem executed_on_destroyed_fork :
    ∃ intent, (runShadowDecision [usdc]
        (approvingInput (sameDigits 'a') 1759999700000 destroyedFork)).executed = some intent ∧
      intent.environmentBinding.environmentId = "fork-0123456789ab" ∧
      ¬ ShadowLaw byCodeUnits [usdc] (approvingInput (sameDigits 'a') 1759999700000 destroyedFork) := by
  have hexecutes : Executes [usdc] (approvingInput (sameDigits 'a') 1759999700000 destroyedFork)
      (intentOf supplyAction (forkNetworkRef destroyedFork) (some destroyedFork.forkId)
        ⟨1, "0xA0b86991c6218b36c1d19D4a2e9Eb0cE3606eB48", 6⟩ none) :=
    ⟨⟨by decide, List.cons_ne_nil _ _, rfl⟩, Option.some_ne_none _, _, _,
      evaluates_approvingInput _ _ _, rfl, compiled_approvingInput _ _ _ rfl⟩
  have hcalled := executed_iff.mpr hexecutes
  refine ⟨_, hcalled, rfl, fun hlaw => ?_⟩
  obtain ⟨-, -, hnow, -⟩ := hlaw.executed _ hcalled
  revert hnow
  decide

end ContextLock.Reality
