/-
  Subject:   The shareable safety report and the policy of a fork, and their hashes.

  Both hashes are taken of `JSON.stringify` with the sorted top-level keys as second argument.
  In a report no nested object has a field of such a name, so every nested object is written
  without its fields; a policy has no nested object.
-/
import ContextLock.Js.Replacer
import ContextLock.Control.Alerts
import ContextLock.Plan.Hash

namespace ContextLock.Lab

open Js

/-! ## 1. The report -/

inductive PrivacyAnswer where
  | VERIFIED
  | NO
  | NOT_ESTABLISHED
  deriving DecidableEq

structure PrivacyClaim where
  claim : String
  answer : PrivacyAnswer
  evidence : Option String
  blocker : Option String

structure ReportAgent where
  goal : String
  ensIdentity : Option String
  blueprintHash : String
  strategyHash : String
  blueprintRevision : Int

structure ReportNetwork where
  chainId : Numeral
  name : String
  role : String

/-- The `productionChainExecution` of a report is one literal. -/
structure ReportExecution where
  networks : List ReportNetwork
  productionWriteEvidence : List String

structure ReportSource where
  sourceId : String
  kind : String
  trustClass : String
  status : String
  blocker : Option String

structure ReportReality where
  sources : List ReportSource
  chainlinkSource : Option String
  theGraphState : String
  archiveReplayState : String
  marketSnapshotHash : Option String
  anchorBlock : Option String

inductive YesNo where
  | YES
  | NO

structure ReportCre where
  mode : String
  executionMode : String
  wasmHash : Option String
  productionLimits : String
  donDeployment : YesNo
  hardwareTee : YesNo
  teeAttestation : YesNo
  deployAccess : String

structure ReportRuntime where
  imageDigest : Option String
  adapterVersions : List String

structure SecuritySimulations where
  passed : Int
  total : Int

structure ReportAttack where
  scenario : String
  result : String
  stoppedBy : Option String
  reasonCode : Option String

structure ReportTesting where
  securitySimulations : SecuritySimulations
  attacks : List ReportAttack

structure ReportDeployment where
  name : String
  address : String
  chainId : Numeral
  txHash : String
  explorerUrl : Option String

structure KnownBlocker where
  id : String
  effect : String

/-- `Omit<SafetyReport, "reportHash">`; the `schemaVersion` is one literal. -/
structure SafetyReportBody where
  reportId : String
  generatedAtMs : Int
  agent : ReportAgent
  execution : ReportExecution
  reality : ReportReality
  cre : ReportCre
  runtime : ReportRuntime
  testing : ReportTesting
  deployments : List ReportDeployment
  privacy : List PrivacyClaim
  knownBlockers : List KnownBlocker

def SAFETY_REPORT_SCHEMA_VERSION : String := "contextlock.safety-report/v1"

/-! ## 2. Reports as values -/

def PrivacyAnswer.text : PrivacyAnswer → String
  | VERIFIED => "VERIFIED"
  | NO => "NO"
  | NOT_ESTABLISHED => "NOT_ESTABLISHED"

def YesNo.text : YesNo → String
  | YES => "YES"
  | NO => "NO"

def nullableText (o : Option String) : Canonical := (o.map Canonical.str).getD .null

def PrivacyClaim.value (c : PrivacyClaim) : Canonical :=
  .obj [("claim", .str c.claim), ("answer", .str c.answer.text),
    ("evidence", nullableText c.evidence), ("blocker", nullableText c.blocker)]

def ReportAgent.value (a : ReportAgent) : Canonical :=
  .obj [("goal", .str a.goal), ("ensIdentity", nullableText a.ensIdentity),
    ("blueprintHash", .str a.blueprintHash), ("strategyHash", .str a.strategyHash),
    ("blueprintRevision", .num (.int a.blueprintRevision))]

def ReportNetwork.value (n : ReportNetwork) : Canonical :=
  .obj [("chainId", .num n.chainId), ("name", .str n.name), ("role", .str n.role)]

def ReportExecution.value (e : ReportExecution) : Canonical :=
  .obj [("networks", .arr (e.networks.map ReportNetwork.value)),
    ("productionChainExecution", .str "DISABLED"),
    ("productionWriteEvidence", .arr (e.productionWriteEvidence.map .str))]

def ReportSource.value (s : ReportSource) : Canonical :=
  .obj [("sourceId", .str s.sourceId), ("kind", .str s.kind), ("trustClass", .str s.trustClass),
    ("status", .str s.status), ("blocker", nullableText s.blocker)]

def ReportReality.value (r : ReportReality) : Canonical :=
  .obj [("sources", .arr (r.sources.map ReportSource.value)),
    ("chainlinkSource", nullableText r.chainlinkSource), ("theGraphState", .str r.theGraphState),
    ("archiveReplayState", .str r.archiveReplayState),
    ("marketSnapshotHash", nullableText r.marketSnapshotHash),
    ("anchorBlock", nullableText r.anchorBlock)]

def ReportCre.value (c : ReportCre) : Canonical :=
  .obj [("mode", .str c.mode), ("executionMode", .str c.executionMode),
    ("wasmHash", nullableText c.wasmHash), ("productionLimits", .str c.productionLimits),
    ("donDeployment", .str c.donDeployment.text), ("hardwareTee", .str c.hardwareTee.text),
    ("teeAttestation", .str c.teeAttestation.text), ("deployAccess", .str c.deployAccess)]

def ReportRuntime.value (r : ReportRuntime) : Canonical :=
  .obj [("imageDigest", nullableText r.imageDigest),
    ("adapterVersions", .arr (r.adapterVersions.map .str))]

def SecuritySimulations.value (s : SecuritySimulations) : Canonical :=
  .obj [("passed", .num (.int s.passed)), ("total", .num (.int s.total))]

def ReportAttack.value (a : ReportAttack) : Canonical :=
  .obj [("scenario", .str a.scenario), ("result", .str a.result),
    ("stoppedBy", nullableText a.stoppedBy), ("reasonCode", nullableText a.reasonCode)]

def ReportTesting.value (t : ReportTesting) : Canonical :=
  .obj [("securitySimulations", t.securitySimulations.value),
    ("attacks", .arr (t.attacks.map ReportAttack.value))]

def ReportDeployment.value (d : ReportDeployment) : Canonical :=
  .obj [("name", .str d.name), ("address", .str d.address), ("chainId", .num d.chainId),
    ("txHash", .str d.txHash), ("explorerUrl", nullableText d.explorerUrl)]

def KnownBlocker.value (b : KnownBlocker) : Canonical :=
  .obj [("id", .str b.id), ("effect", .str b.effect)]

def SafetyReportBody.fields (b : SafetyReportBody) : List (String × Canonical) :=
  [("schemaVersion", .str SAFETY_REPORT_SCHEMA_VERSION), ("reportId", .str b.reportId),
   ("generatedAtMs", .num (.int b.generatedAtMs)), ("agent", b.agent.value),
   ("execution", b.execution.value), ("reality", b.reality.value), ("cre", b.cre.value),
   ("runtime", b.runtime.value), ("testing", b.testing.value),
   ("deployments", .arr (b.deployments.map ReportDeployment.value)),
   ("privacy", .arr (b.privacy.map PrivacyClaim.value)),
   ("knownBlockers", .arr (b.knownBlockers.map KnownBlocker.value))]

/-! ## 3. The checks of a report -/

/-- `SafetyReportSchema` on a body: what it asks beyond the types of the fields. -/
def SafetyReportBody.fits (b : SafetyReportBody) : Bool :=
  b.reportId ≠ "" && 0 < b.generatedAtMs && b.agent.goal ≠ "" && b.agent.blueprintHash ≠ "" &&
  b.agent.strategyHash ≠ "" && 0 ≤ b.agent.blueprintRevision && b.execution.networks ≠ [] &&
  b.execution.productionWriteEvidence ≠ [] && b.reality.theGraphState ≠ "" &&
  b.reality.archiveReplayState ≠ "" && b.cre.mode ≠ "" && b.cre.executionMode ≠ "" &&
  b.cre.productionLimits ≠ "" && b.cre.deployAccess ≠ "" &&
  0 ≤ b.testing.securitySimulations.passed && 0 ≤ b.testing.securitySimulations.total &&
  6 ≤ b.privacy.length && b.privacy.all fun c => c.claim ≠ ""

/-! ## 4. Hashes -/

/-- The policy a fork enforces; limits are decimal texts. -/
structure ForkPolicy where
  policyId : String
  policyVersion : Int
  autoLimit : String
  escalationLimit : String
  minHealthFactorBps : Int
  targetHealthFactorBps : Int
  restoreHealthFactorBps : Int
  allowedActionKinds : List String
  allowedTargets : List String
  maxValueHardCapWei : String

def ForkPolicy.fields (p : ForkPolicy) : List (String × Canonical) :=
  [("policyId", .str p.policyId), ("policyVersion", .num (.int p.policyVersion)),
   ("autoLimit", .str p.autoLimit), ("escalationLimit", .str p.escalationLimit),
   ("minHealthFactorBps", .num (.int p.minHealthFactorBps)),
   ("targetHealthFactorBps", .num (.int p.targetHealthFactorBps)),
   ("restoreHealthFactorBps", .num (.int p.restoreHealthFactorBps)),
   ("allowedActionKinds", .arr (p.allowedActionKinds.map .str)),
   ("allowedTargets", .arr (p.allowedTargets.map .str)),
   ("maxValueHardCapWei", .str p.maxValueHardCapWei)]

/-- What is left of a report when no nested object keeps a field. -/
structure Outline where
  reportId : String
  generatedAtMs : Int
  deployments : Nat
  privacy : Nat
  knownBlockers : Nat
  deriving DecidableEq

/-- An array of `n` objects without fields. -/
def blanks (n : Nat) : Canonical := .arr (List.replicate n (.obj []))

def Outline.value (o : Outline) : Canonical :=
  .obj [("agent", .obj []), ("cre", .obj []), ("deployments", blanks o.deployments),
    ("execution", .obj []), ("generatedAtMs", .num (.int o.generatedAtMs)),
    ("knownBlockers", blanks o.knownBlockers), ("privacy", blanks o.privacy),
    ("reality", .obj []), ("reportId", .str o.reportId), ("runtime", .obj []),
    ("schemaVersion", .str SAFETY_REPORT_SCHEMA_VERSION), ("testing", .obj [])]

end ContextLock.Lab
