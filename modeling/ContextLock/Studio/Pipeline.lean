/-
  Subject:   The build state machine of the Studio, over the rows of one build.

  The stages of a build run as threads over its rows: the design up to the approval boundary, and
  the build from the approval to its end. Each awaits models, a sandbox and fixtures; approvals,
  edits and an abandon come in between. What is noted in `Watch` nothing reads.
-/
import ContextLock.Machine.Thread
import ContextLock.Studio.Engine

namespace ContextLock.Studio

open Machine

/-! ## 1. Rows -/

inductive BuildStage where
  | INTAKE
  | REQUIREMENTS
  | BLUEPRINT
  | SECURITY_REVIEW
  | AWAITING_APPROVAL
  | BUILD
  | TEST
  | SIMULATE
  | REPAIR
  | FINAL_VERIFY
  | EXPORT_READY
  deriving DecidableEq

inductive BuildStatus where
  | RUNNING
  | AWAITING_APPROVAL
  | COMPLETED
  | FAILED
  | PAUSED
  | BUILD_LIMIT_REACHED
  | BUILD_NEEDS_USER_REVIEW
  | BUILD_PAUSED_UPSTREAM_LIMIT
  | ABANDONED
  deriving DecidableEq

def BuildStage.text : BuildStage → String
  | INTAKE => "INTAKE"
  | REQUIREMENTS => "REQUIREMENTS"
  | BLUEPRINT => "BLUEPRINT"
  | SECURITY_REVIEW => "SECURITY_REVIEW"
  | AWAITING_APPROVAL => "AWAITING_APPROVAL"
  | BUILD => "BUILD"
  | TEST => "TEST"
  | SIMULATE => "SIMULATE"
  | REPAIR => "REPAIR"
  | FINAL_VERIFY => "FINAL_VERIFY"
  | EXPORT_READY => "EXPORT_READY"

def BuildStatus.text : BuildStatus → String
  | RUNNING => "RUNNING"
  | AWAITING_APPROVAL => "AWAITING_APPROVAL"
  | COMPLETED => "COMPLETED"
  | FAILED => "FAILED"
  | PAUSED => "PAUSED"
  | BUILD_LIMIT_REACHED => "BUILD_LIMIT_REACHED"
  | BUILD_NEEDS_USER_REVIEW => "BUILD_NEEDS_USER_REVIEW"
  | BUILD_PAUSED_UPSTREAM_LIMIT => "BUILD_PAUSED_UPSTREAM_LIMIT"
  | ABANDONED => "ABANDONED"

inductive Severity where
  | CRITICAL
  | HIGH
  | MEDIUM
  | LOW
  | INFO
  deriving DecidableEq

structure ValidationIssue where
  code : String
  severity : Severity
  path : String

inductive FindingSource where
  | deterministicValidator
  | adapterResolver
  | artifactValidator
  | securityArchitect
  | finalReviewer
  deriving DecidableEq

structure Finding extends ValidationIssue where
  source : FindingSource

structure SavedBlueprint (β : Type) where
  document : Blueprint β
  validation : List ValidationIssue

structure Artifact where
  buildRevision : Nat
  blueprintRevision : Int
  path : String
  content : String

inductive SimulationClass where
  | MANDATORY_SECURITY
  | USER_REQUESTED

structure SimulationRow where
  simClass : SimulationClass
  result : SimulationResult

inductive Suite where
  | typecheck
  | generatedTests

structure TestRow where
  buildRevision : Nat
  suite : Suite
  failed : Nat

/-- The rows of one build, in every table. -/
structure Build (β : Type) where
  id : String
  projectId : String
  userId : String
  idempotencyKey : Option String
  stage : BuildStage
  status : BuildStatus
  blueprintRevision : Option Int
  buildRevision : Nat
  repairCycles : Nat
  approvedAt : Option String
  failureReason : Option String
  blueprints : List (SavedBlueprint β)
  findings : List Finding
  artifacts : List Artifact
  simulations : List SimulationRow
  tests : List TestRow

/-- The row with the highest revision. -/
def latest {β : Type} : List (SavedBlueprint β) → Option (Blueprint β)
  | [] => none
  | row :: rows =>
    match latest rows with
    | none => some row.document
    | some bp => if bp.revision < row.document.revision then some row.document else some bp

def Build.currentBlueprint {β : Type} (b : Build β) : Option (Blueprint β) := latest b.blueprints

/-! ## 2. What the pipeline calls -/

structure ValidationResult where
  buildable : Bool
  issues : List ValidationIssue

structure Binding where
  adapterId : String
  adapterVersion : String
  configRef : String

/-- What the adapters' registry resolves: bindings, and the keys it rejects a suggestion for or
    cannot supply. -/
structure Resolution where
  bindings : List Binding
  overridesRejected : List String
  unresolved : List String

structure GeneratedFile where
  path : String
  content : String

/-- The code around the pipeline: the validator's other rules (an error is the schema's), the
    assembly of a draft, the registry, the templates, the scans, and the repair limit. -/
structure Tools (β Req Arch : Type) where
  rules : Blueprint β → Except (List ValidationIssue) (List ValidationIssue)
  unknowns : Blueprint β → List String
  assembleBlueprint : Req → Arch → Blueprint β
  requiredExecutionCapabilities : Arch → List String
  resolveExecutionCapability : String → Option Binding
  resolveBlueprintAdapters : Blueprint β → Resolution
  adapterScenarios : List Binding → List SimulationScenario
  withBindings : β → List Binding → β
  renderProject : Blueprint β → Except String (List GeneratedFile)
  validateBlueprintArtifacts : Blueprint β → List String → List ValidationIssue
  scanArtifactHonesty : List GeneratedFile → Blueprint β → List String
  autoRepairLoops : Nat

section Validation

variable {β Req Arch : Type} (T : Tools β Req Arch)

def baselineCoverage (bp : Blueprint β) : List ValidationIssue :=
  if BASELINE_SCENARIOS.any fun id => !bp.simulationScenarios.any (·.scenarioId = id) then
    [⟨"BP-022", .MEDIUM, "simulationScenarios"⟩]
  else []

/-- Nothing CRITICAL or HIGH is outstanding. -/
def blocking (issues : List ValidationIssue) : Bool :=
  issues.any fun i => decide (i.severity = .CRITICAL) || decide (i.severity = .HIGH)

def validateBlueprint (bp : Blueprint β) : ValidationResult :=
  match T.rules bp with
  | .error issues => ⟨false, issues⟩
  | .ok issues =>
    let issues := issues ++ baselineCoverage bp
    ⟨!blocking issues && (T.unknowns bp).isEmpty, issues⟩

/-- One required capability: resolved and bound, or a CRITICAL finding. -/
def resolveCapability (acc : List Binding × List ValidationIssue) (capability : String) :
    List Binding × List ValidationIssue :=
  match T.resolveExecutionCapability capability with
  | none =>
    (acc.1, acc.2 ++
      [⟨"ADP-NO-EXECUTION-ADAPTER", .CRITICAL, "requiredExecutionCapabilities." ++ capability⟩])
  | some r =>
    if acc.1.any fun b => b.adapterId = r.adapterId && b.configRef = r.configRef then acc
    else (acc.1 ++ [r], acc.2)

/-- The draft with its adapters, and the findings of their resolution. -/
def resolveAdapters (draft : Blueprint β) (arch : Arch) : Blueprint β × List ValidationIssue :=
  let resolution := T.resolveBlueprintAdapters draft
  let resolved :=
    (T.requiredExecutionCapabilities arch).foldl (resolveCapability T) (resolution.bindings, [])
  let scenarios := (T.adapterScenarios resolved.1).filter fun a =>
    !draft.simulationScenarios.any (·.scenarioId = a.scenarioId)
  ({ draft with
      simulationScenarios := draft.simulationScenarios ++ scenarios
      rest := T.withBindings draft.rest resolved.1 },
   resolved.2
    ++ resolution.overridesRejected.map (⟨"ADP-OVERRIDE-REJECTED", .MEDIUM, "dataRequirements." ++ ·⟩)
    ++ resolution.unresolved.map
      (⟨"ADP-NO-COMPATIBLE-ADAPTER", .CRITICAL, "dataRequirements." ++ ·⟩))

end Validation

inductive QuotaKind where
  | MODEL_REQUESTS
  | INPUT_TOKENS
  | OUTPUT_TOKENS
  | REPAIR_LOOPS
  | USER_SIMULATIONS
  | MANDATORY_SIMULATION_CEILING
  | MANDATORY_PASS_CEILING
  | SANDBOX_WALL_CLOCK
  | GENERATED_FILES
  | NEW_BUILDS
  | CONCURRENT_BUILDS

def QuotaKind.text : QuotaKind → String
  | MODEL_REQUESTS => "MODEL_REQUESTS"
  | INPUT_TOKENS => "INPUT_TOKENS"
  | OUTPUT_TOKENS => "OUTPUT_TOKENS"
  | REPAIR_LOOPS => "REPAIR_LOOPS"
  | USER_SIMULATIONS => "USER_SIMULATIONS"
  | MANDATORY_SIMULATION_CEILING => "MANDATORY_SIMULATION_CEILING"
  | MANDATORY_PASS_CEILING => "MANDATORY_PASS_CEILING"
  | SANDBOX_WALL_CLOCK => "SANDBOX_WALL_CLOCK"
  | GENERATED_FILES => "GENERATED_FILES"
  | NEW_BUILDS => "NEW_BUILDS"
  | CONCURRENT_BUILDS => "CONCURRENT_BUILDS"

/-- `QuotaExceededError`. -/
structure QuotaExceeded where
  kind : QuotaKind
  used : Nat
  limit : Nat

def QuotaExceeded.message (e : QuotaExceeded) : String :=
  "quota exceeded: " ++ e.kind.text ++ " (" ++ toString e.used ++ "/" ++ toString e.limit ++ ")"

inductive ModelRole where
  | requirements
  | architecture
  | security
  | reviewer

/-- The budgets that are asked about. -/
inductive QuotaQuestion where
  | reserve (role : ModelRole)
  | writeFile
  | sandboxWithinWallClock
  | mandatoryPassSize (planned : Nat)
  | simulate (simClass : SimulationClass)

inductive ModelError where
  | upstreamRateLimit (attempts : Nat)
  | other (message : String)

/-- The text of `UpstreamRateLimitError`. -/
def upstreamMessage (attempts : Nat) : String :=
  "upstream rate limit persisted after " ++ toString attempts ++ " attempts"

/-- What the creation of a sandbox throws. -/
inductive SandboxError where
  | unavailable (detail : String)
  | other (message : String)

def SandboxError.message : SandboxError → String
  | unavailable detail => "sandbox unavailable: " ++ detail
  | other message => message

def SandboxError.thrown : SandboxError → String
  | unavailable detail => "sandbox unavailable: " ++ detail
  | other message => "sandbox unavailable: Error: " ++ message

inductive Ask where
  | now
  | quota (q : QuotaQuestion)
  | requirements
  | architecture
  | security
  | reviewer
  | createSandbox
  | writeFile (path content : String)
  | exec (command : String)
  | fixtures
  | destroySandbox

/-- The clock and the budgets answer at once. -/
def Ask.instant : Ask → Bool
  | now => true
  | quota _ => true
  | _ => false

/-- What is answered: a budget that is exceeded, the flags a reviewer raises, the exit code of a
    command, or an error. -/
def Answer (Req Arch : Type) : Ask → Type
  | .now => String
  | .quota _ => Option QuotaExceeded
  | .requirements => Except ModelError Req
  | .architecture => Except ModelError Arch
  | .security => Except ModelError (List ValidationIssue)
  | .reviewer => Except ModelError (List String)
  | .createSandbox => Except SandboxError Unit
  | .writeFile _ _ => Except String Unit
  | .exec _ => Except String Int
  | .fixtures => Except String AdapterFixtureMap
  | .destroySandbox => Unit

/-! ## 3. Jobs -/

structure Completion (β : Type) where
  blueprint : Blueprint β
  buildRevision : Nat
  simulations : List SimulationResult
  tests : List TestRow
  findings : List Finding

/-- What an observer notes of a build. -/
structure Watch (β : Type) where
  /-- The current blueprint at every successful approval. -/
  approvals : List (Blueprint β)
  /-- A blueprint was saved since the last of them. -/
  saved : Bool
  /-- The blueprints that code was generated for. -/
  rendered : List (Blueprint β)
  /-- An abandon has returned. -/
  abandoned : Bool
  /-- An approval succeeded after it. -/
  approvedAfter : Bool
  completions : List (Completion β)

/-- The rows of a build, whether the process holds a sandbox for it, and what is noted. -/
structure Desk (β : Type) where
  build : Build β
  sandbox : Bool
  watch : Watch β

inductive StudioError where
  | notAwaitingApproval (stage : BuildStage)
  | unacknowledged (codes : List String)
  | already (status : BuildStatus)
  | notApproved
  | noBlueprint
  | noneDeclared (notDeclared : List String)
  | quotaExceeded (e : QuotaExceeded)
  | upstreamRateLimit (attempts : Nat)
  | sandboxUnavailable (e : SandboxError)
  | thrown (message : String)

/-- What a call returns. -/
inductive Reply (β : Type) where
  | done
  | designed (blueprint : Blueprint β) (issues : List ValidationIssue)
  | edited (blueprint : Blueprint β) (issues : List ValidationIssue)
  | built (ok : Bool) (files : List String) (simulations : List SimulationResult)
  | simulated (simulations : List SimulationResult) (notDeclared : List String)

/-- A computation of the pipeline. -/
abbrev Job (β Req Arch : Type) : Type → Type :=
  Thread (Desk β) Ask (Answer Req Arch) StudioError

section Jobs

variable {β Req Arch α : Type}

def modify (f : Build β → Build β) : Job β Req Arch Unit :=
  Thread.update fun d => { d with build := f d.build }

def note (f : Build β → Watch β → Watch β) : Job β Req Arch Unit :=
  Thread.update fun d => { d with watch := f d.build d.watch }

def now : Job β Req Arch String := Thread.ask Ask.now

def quota (q : QuotaQuestion) : Job β Req Arch (Option QuotaExceeded) := Thread.ask (Ask.quota q)

/-- A budget, with its error thrown. -/
def assertQuota (q : QuotaQuestion) : Job β Req Arch Unit :=
  (quota q).bind fun refusal =>
    match refusal with
    | some e => .threw (.quotaExceeded e)
    | none => .ok ()

/-- An answer that may be an error. -/
def orThrow (x : Except String α) : Job β Req Arch α :=
  match x with
  | .ok a => .ok a
  | .error message => .threw (.thrown message)

def writeFile (f : GeneratedFile) : Job β Req Arch Unit :=
  (Thread.ask (Ask.writeFile f.path f.content) : Job β Req Arch (Except String Unit)).bind orThrow

def exec (command : String) : Job β Req Arch Int :=
  (Thread.ask (Ask.exec command) : Job β Req Arch (Except String Int)).bind orThrow

def buildAdapterFixtures : Job β Req Arch AdapterFixtureMap :=
  (Thread.ask Ask.fixtures : Job β Req Arch (Except String AdapterFixtureMap)).bind orThrow

def setStage (stage : BuildStage) : Job β Req Arch Unit := modify fun b => { b with stage := stage }

def setStatus (status : BuildStatus) (reason : Option String) : Job β Req Arch Unit :=
  modify fun b => { b with status := status, failureReason := reason }

def recordFinding (source : FindingSource) (i : ValidationIssue) : Job β Req Arch Unit :=
  modify fun b => { b with findings := b.findings ++ [⟨i, source⟩] }

def recordFindings (source : FindingSource) (issues : List ValidationIssue) : Job β Req Arch Unit :=
  issues.forM (recordFinding source)

def recordTest (row : TestRow) : Job β Req Arch Unit :=
  modify fun b => { b with tests := b.tests ++ [row] }

def saveBlueprint (bp : Blueprint β) (issues : List ValidationIssue) : Job β Req Arch Unit :=
  Thread.update fun d =>
    { d with
      build := { d.build with
        blueprints :=
          d.build.blueprints.filter (·.document.revision ≠ bp.revision) ++ [⟨bp, issues⟩]
        blueprintRevision := some bp.revision }
      watch := { d.watch with saved := true } }

def callModel (role : ModelRole) (fn : Job β Req Arch (Except ModelError α)) : Job β Req Arch α := do
  match ← quota (.reserve role) with
  | some e =>
    setStatus .BUILD_LIMIT_REACHED (some e.message)
    .threw (.quotaExceeded e)
  | none =>
    match ← fn with
    | .ok output => pure output
    | .error (.upstreamRateLimit attempts) =>
      setStatus .BUILD_PAUSED_UPSTREAM_LIMIT (some (upstreamMessage attempts))
      .threw (.upstreamRateLimit attempts)
    | .error (.other message) => .threw (.thrown message)

/-! ## 4. The design, and the approval boundary -/

variable (T : Tools β Req Arch)

/-- Everything up to the approval boundary. -/
def runToApproval : Job β Req Arch (Reply β) := do
  setStage .REQUIREMENTS
  let req ← callModel .requirements (Thread.ask Ask.requirements)
  setStage .BLUEPRINT
  let arch ← callModel .architecture (Thread.ask Ask.architecture)
  let createdAt ← now
  let draft := { T.assembleBlueprint req arch with revision := 1, createdAt := createdAt }
  let resolved := resolveAdapters T draft arch
  recordFindings .adapterResolver resolved.2
  let blueprint := resolved.1
  let validation := validateBlueprint T blueprint
  saveBlueprint blueprint validation.issues
  setStage .SECURITY_REVIEW
  recordFindings .deterministicValidator validation.issues
  -- A failed advisory review does not block the design.
  let review ← Thread.attempt (callModel .security (Thread.ask Ask.security))
  let modelIssues := match review with
    | .ok issues => issues
    | .error _ => []
  recordFindings .securityArchitect modelIssues
  if !validation.buildable then
    setStatus .BUILD_NEEDS_USER_REVIEW (some "Blueprint is not buildable")
    setStage .SECURITY_REVIEW
    pure (.designed blueprint (validation.issues ++ modelIssues))
  else
    setStage .AWAITING_APPROVAL
    setStatus .AWAITING_APPROVAL none
    pure (.designed blueprint (validation.issues ++ modelIssues))

/-- The CRITICAL findings of the security review that are not acknowledged. -/
def Build.unacknowledged (b : Build β) (acknowledgeFindings : List String) : List String :=
  (b.findings.filter fun f => decide (f.severity = .CRITICAL) &&
    decide (f.source = .securityArchitect) && !acknowledgeFindings.contains f.code).map (·.code)

def approve (acknowledgeFindings : List String) : Job β Req Arch (Reply β) := do
  let d ← Thread.read
  if d.build.stage ≠ .AWAITING_APPROVAL then .threw (.notAwaitingApproval d.build.stage)
  else if d.build.unacknowledged acknowledgeFindings ≠ [] then
    .threw (.unacknowledged (d.build.unacknowledged acknowledgeFindings))
  else
    let approvedAt ← now
    note fun b w =>
      { w with
        approvals := w.approvals ++ b.currentBlueprint.toList
        saved := false
        approvedAfter := w.approvedAfter || w.abandoned }
    modify fun b => { b with approvedAt := some approvedAt }
    pure .done

def abandon (reason : String) : Job β Req Arch (Reply β) := do
  let d ← Thread.read
  if d.build.status = .COMPLETED ∨ d.build.status = .ABANDONED then .threw (.already d.build.status)
  else
    setStatus .ABANDONED (some reason)
    note fun _ w => { w with abandoned := true }
    pure .done

/-- The build, if the process that ran it is gone. -/
def reconcileOrphanedBuilds : Job β Req Arch (Reply β) := do
  let d ← Thread.read
  if d.build.status = .RUNNING then
    setStatus .ABANDONED (some ("the server restarted while this build was running, so the worker "
      ++ "no longer exists. The record is kept; the concurrency slot is released."))
    pure .done
  else pure .done

/-- The Blueprint with a patch, as its next revision. -/
def editBlueprint (patch : Blueprint β → Blueprint β) : Job β Req Arch (Reply β) := do
  let d ← Thread.read
  match d.build.currentBlueprint with
  | none => .threw .noBlueprint
  | some current =>
    let createdAt ← now
    let next := { patch current with revision := current.revision + 1, createdAt := createdAt }
    let validation := validateBlueprint T next
    saveBlueprint next validation.issues
    pure (.edited next validation.issues)

/-! ## 5. Simulations on request -/

def insertSimulation (simClass : SimulationClass) (r : SimulationResult) : Job β Req Arch Unit :=
  modify fun b => { b with simulations := b.simulations ++ [⟨simClass, r⟩] }

/-- The scenarios one after the other, each charged to the user's allowance. -/
def userPass (bp : Blueprint β) (buildRevision : Nat) (fixtures : AdapterFixtureMap) :
    List String → List SimulationResult → Job β Req Arch (List SimulationResult)
  | [], out => pure out
  | id :: ids, out => do
    assertQuota (.simulate .USER_REQUESTED)
    let r := runScenario bp buildRevision id fixtures
    insertSimulation .USER_REQUESTED r
    userPass bp buildRevision fixtures ids (out ++ [r])

def runUserSimulations (scenarioIds : List String) : Job β Req Arch (Reply β) := do
  let d ← Thread.read
  match d.build.currentBlueprint with
  | none => .threw .noBlueprint
  | some blueprint =>
    let declared := (blueprint.simulationScenarios.map (·.scenarioId)).eraseDups
    let wanted := if scenarioIds.isEmpty then declared else scenarioIds
    let notDeclared := wanted.filter (!declared.contains ·)
    let toRun := wanted.filter (declared.contains ·)
    if toRun.isEmpty then .threw (.noneDeclared notDeclared)
    else
      let fixtures ← buildAdapterFixtures
      let out ← userPass blueprint d.build.buildRevision fixtures toRun []
      pure (.simulated out notDeclared)

/-! ## 6. The build -/

/-- The generated project's own checks, in the sandbox. -/
def runSuite (buildRevision : Nat) : Job β Req Arch Bool := do
  let typecheck ← exec "npx --no-install tsc -p tsconfig.json --noEmit"
  if typecheck ≠ 0 then
    recordTest ⟨buildRevision, .typecheck, 1⟩
    pure false
  else
    recordTest ⟨buildRevision, .typecheck, 0⟩
    let tests ← exec "npx --no-install vitest run"
    recordTest ⟨buildRevision, .generatedTests, if tests = 0 then 0 else 1⟩
    pure (tests = 0)

def writeFiles (blueprint : Blueprint β) (buildRevision : Nat) (files : List GeneratedFile) :
    Job β Req Arch Unit :=
  files.forM fun f => do
    assertQuota .writeFile
    assertQuota .sandboxWithinWallClock
    writeFile f
    modify fun b =>
      { b with
        artifacts := b.artifacts.filter
            (fun a => !(decide (a.buildRevision = buildRevision) && decide (a.path = f.path)))
          ++ [⟨buildRevision, blueprint.revision, f.path, f.content⟩] }

/-- Repair cycles until the checks pass, or the cycles are exhausted. After `autoRepairLoops`
    cycles the counter of the row has reached the limit. -/
def repair (files : List GeneratedFile) (buildRevision : Nat) : Nat → Job β Req Arch Bool
  | 0 => pure false
  | cycles + 1 => do
    let d ← Thread.read
    if T.autoRepairLoops ≤ d.build.repairCycles then pure false
    else
      modify fun b => { b with repairCycles := b.repairCycles + 1 }
      setStage .REPAIR
      files.forM writeFile
      let testOk ← runSuite buildRevision
      if testOk then pure true else repair files buildRevision cycles

/-- The mandatory pass: the results that were run, and how many were not. -/
def mandatoryPass : List SimulationResult → List SimulationResult →
    Job β Req Arch (List SimulationResult × Nat)
  | [], sims => pure (sims, 0)
  | r :: planned, sims => do
    match ← quota (.simulate .MANDATORY_SECURITY) with
    | some _ => pure (sims, planned.length + 1)
    | none =>
      match ← quota .sandboxWithinWallClock with
      | some _ => pure (sims, planned.length + 1)
      | none =>
        insertSimulation .MANDATORY_SECURITY r
        mandatoryPass planned (sims ++ [r])

/-- The honesty flags that only the reviewer raised. -/
def disagreements (review honestyFlags : List String) : List ValidationIssue :=
  (review.filter (!honestyFlags.contains ·)).map
    (⟨"REV-DISAGREE", .HIGH, "finalReview.honestyCheck." ++ ·⟩)

/-- The final gate. -/
def finalVerify (blueprint : Blueprint β) (buildRevision : Nat) (files : List GeneratedFile)
    (sims : List SimulationResult) (truncated : Nat) : Job β Req Arch (Reply β) := do
  setStage .FINAL_VERIFY
  let review ← Thread.attempt (callModel .reviewer (Thread.ask Ask.reviewer))
  let honestyFlags := T.scanArtifactHonesty files blueprint
  let flagged := match review with
    | .ok flags => disagreements flags honestyFlags
    | .error _ => []
  recordFindings .finalReviewer flagged
  let paths := files.map GeneratedFile.path
  if honestyFlags ≠ [] then
    setStatus .BUILD_NEEDS_USER_REVIEW
      (some ("artifact makes an unsupported claim: " ++ ", ".intercalate honestyFlags))
    pure (.built false paths sims)
  else if ¬ (sims ≠ [] ∧ sims.all SimulationResult.passed) ∨ 0 < truncated then
    setStatus .BUILD_NEEDS_USER_REVIEW (some (
      if 0 < truncated then
        "simulation budget exhausted: " ++ toString truncated ++ " scenario(s) never ran"
      else "one or more simulations did not meet expectations"))
    pure (.built false paths sims)
  else
    setStage .EXPORT_READY
    note fun b w =>
      { w with
        completions := w.completions ++ [⟨blueprint, buildRevision, sims, b.tests, b.findings⟩] }
    setStatus .COMPLETED none
    pure (.built true paths sims)

/-- The mandatory security pass, and the final gate. -/
def simulate (blueprint : Blueprint β) (buildRevision : Nat) (files : List GeneratedFile) :
    Job β Req Arch (Reply β) := do
  setStage .SIMULATE
  let fixtures ← buildAdapterFixtures
  let planned := runAllScenarios blueprint buildRevision fixtures
  assertQuota (.mandatoryPassSize planned.length)
  let pass ← mandatoryPass planned []
  finalVerify T blueprint buildRevision files pass.1 pass.2

def runSuiteOrRepair (buildRevision : Nat) (files : List GeneratedFile) : Job β Req Arch Bool := do
  let testOk ← runSuite buildRevision
  if testOk then pure true else repair T files buildRevision T.autoRepairLoops

def test (blueprint : Blueprint β) (buildRevision : Nat) (files : List GeneratedFile) :
    Job β Req Arch (Reply β) := do
  setStage .TEST
  let testOk ← runSuiteOrRepair T buildRevision files
  if testOk then simulate T blueprint buildRevision files
  else
    setStatus .BUILD_NEEDS_USER_REVIEW (some "automatic repair exhausted after 3 cycles")
    pure (.built false (files.map GeneratedFile.path) [])

/-- Everything that happens in the sandbox. -/
def generate (blueprint : Blueprint β) (buildRevision : Nat) : Job β Req Arch (Reply β) := do
  note fun _ w => { w with rendered := w.rendered ++ [blueprint] }
  let files ← orThrow (T.renderProject blueprint)
  writeFiles blueprint buildRevision files
  let _ ← exec "ln -sfn /opt/agent-deps/node_modules"
  let artifactIssues := T.validateBlueprintArtifacts blueprint (files.map GeneratedFile.path)
  recordFindings .artifactValidator artifactIssues
  if artifactIssues ≠ [] then
    setStatus .BUILD_NEEDS_USER_REVIEW (some "generated artifacts do not match the Blueprint")
    pure (.built false (files.map GeneratedFile.path) [])
  else test T blueprint buildRevision files

/-- `error.message`, where it is thrown for the build of that id. -/
def StudioError.message (buildId : String) : StudioError → String
  | notAwaitingApproval stage =>
    "build " ++ buildId ++ " is at stage " ++ stage.text ++ ", not awaiting approval"
  | unacknowledged codes =>
    "approval refused: " ++ toString codes.length ++ " CRITICAL finding(s) from the security "
      ++ "review must be acknowledged by code: " ++ ", ".intercalate codes
  | already status => "build " ++ buildId ++ " is already " ++ status.text.toLower
  | notApproved => "build has not been approved by the user"
  | noBlueprint => "build " ++ buildId ++ " has no blueprint"
  | noneDeclared notDeclared =>
    "none of the requested scenarios is declared by this Blueprint ("
      ++ ", ".intercalate notDeclared ++ ")"
  | quotaExceeded e => e.message
  | upstreamRateLimit attempts => upstreamMessage attempts
  | sandboxUnavailable e => e.thrown
  | thrown message => message

/-- The sandbox of the build, if the process still holds one, is let go. -/
def release : Job β Req Arch Unit := do
  let d ← Thread.read
  if d.sandbox then
    let _ ← (Thread.ask Ask.destroySandbox : Job β Req Arch Unit)
    Thread.update fun d => { d with sandbox := false }
  else pure ()

def failIfRunning (e : StudioError) : Job β Req Arch Unit := do
  let d ← Thread.read
  if d.build.status = .RUNNING then setStatus .FAILED (some (e.message d.build.id))
  else pure ()

/-- A Blueprint that may be built, generated and checked in a sandbox of its own. -/
def buildInSandbox (blueprint : Blueprint β) (buildRevision : Nat) : Job β Req Arch (Reply β) := do
  modify fun b => { b with buildRevision := buildRevision, status := .RUNNING }
  setStage .BUILD
  let created ← (Thread.ask Ask.createSandbox : Job β Req Arch (Except SandboxError Unit))
  match created with
  | .error e =>
    setStatus .FAILED (some e.message)
    .threw (.sandboxUnavailable e)
  | .ok _ =>
    Thread.update fun d => { d with sandbox := true }
    let result ← Thread.attempt (generate T blueprint buildRevision)
    match result with
    | .ok reply =>
      release
      pure reply
    | .error e =>
      failIfRunning e
      release
      .threw e

def runBuild : Job β Req Arch (Reply β) := do
  let d ← Thread.read
  if d.build.approvedAt.isNone then .threw .notApproved
  else
    match d.build.currentBlueprint with
    | none => .threw .noBlueprint
    | some blueprint => buildInSandbox T blueprint (d.build.buildRevision + 1)

end Jobs

/-! ## 7. The calls as operations -/

inductive Op (β : Type) where
  | runToApproval
  | approve (acknowledgeFindings : List String)
  | abandon (reason : String)
  | reconcileOrphanedBuilds
  | editBlueprint (patch : Blueprint β → Blueprint β)
  | runUserSimulations (scenarioIds : List String)
  | runBuild

variable {β Req Arch : Type}

def program (T : Tools β Req Arch) : Op β → Job β Req Arch (Reply β)
  | .runToApproval => runToApproval T
  | .approve acknowledgeFindings => approve acknowledgeFindings
  | .abandon reason => abandon reason
  | .reconcileOrphanedBuilds => reconcileOrphanedBuilds
  | .editBlueprint patch => editBlueprint T patch
  | .runUserSimulations scenarioIds => runUserSimulations scenarioIds
  | .runBuild => runBuild T

abbrev Calls (β Req Arch : Type) :=
  Pool (Desk β) Ask (Answer Req Arch) StudioError (Reply β) (Op β)

abbrev CallTurn (β Req Arch : Type) := Turn (Answer Req Arch) (Op β)

def Calls.step (T : Tools β Req Arch) : Calls β Req Arch → CallTurn β Req Arch →
    Option (Calls β Req Arch) :=
  Pool.step Ask.instant (program T)

def Build.created (id projectId userId : String) (idempotencyKey : Option String) : Build β :=
  ⟨id, projectId, userId, idempotencyKey, .INTAKE, .RUNNING, none, 0, 0, none, none, [], [], [], [], []⟩

def Watch.nothing : Watch β := ⟨[], false, [], false, false, []⟩

/-- A new build, before any call. -/
def Calls.new (id projectId userId : String) (idempotencyKey : Option String) : Calls β Req Arch :=
  Pool.idle ⟨.created id projectId userId idempotencyKey, false, Watch.nothing⟩

end ContextLock.Studio
