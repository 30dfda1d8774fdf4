/-
  Subject:   Deployment manifests, their hash, and the artifacts they pin.

  Terms whose type admits one value only (the schema version, the three initial states) stand
  in the canonical form and are no fields here. The hash leaves out `manifestId` and
  `generatedAt`.
-/
import ContextLock.Deploy.Plan

namespace ContextLock.Deploy

open Js

/-! ## 1. The document -/

inductive ContractDisposition where
  | REUSE_VERIFIED
  | DEPLOY_NEW
  | CONFIGURE_EXISTING
  | CREATE_AGENT_SPECIFIC

def ContractDisposition.text : ContractDisposition → String
  | REUSE_VERIFIED => "REUSE_VERIFIED"
  | DEPLOY_NEW => "DEPLOY_NEW"
  | CONFIGURE_EXISTING => "CONFIGURE_EXISTING"
  | CREATE_AGENT_SPECIFIC => "CREATE_AGENT_SPECIFIC"

structure Compiler where
  solc : String
  optimizer : Bool
  runs : Int
  evmVersion : String

structure ManifestContract where
  name : String
  chainId : Nat
  disposition : ContractDisposition
  address : Option String
  runtimeCodeHash : Option String
  creationCodeHash : Option String
  compiler : Option Compiler

structure ManifestEns where
  name : String
  node : String
  chainId : Nat
  resolver : String
  boundAgent : String

structure ManifestCreWorkflow where
  workflowName : String
  registry : String
  binaryHash : String
  configHash : String
  workflowHash : String
  sourceTreeHash : String
  creCliVersion : String

structure ManifestRuntimeImage where
  agentId : String
  tag : String
  imageDigest : Option String
  sbomDigest : Option String
  provenanceDigest : Option String
  vulnerabilityReportDigest : Option String
  baseImageDigest : Option String

structure ManifestAdapter where
  adapterId : String
  version : String
  artifactHash : String

inductive RequiredBalanceCategory where
  | NATIVE_GAS
  | TEST_PROTOCOL_ASSET
  | BRIDGE_FEE
  | CCIP_FEE_TOKEN
  | TREASURY_SEED_ASSET

def RequiredBalanceCategory.text : RequiredBalanceCategory → String
  | NATIVE_GAS => "NATIVE_GAS"
  | TEST_PROTOCOL_ASSET => "TEST_PROTOCOL_ASSET"
  | BRIDGE_FEE => "BRIDGE_FEE"
  | CCIP_FEE_TOKEN => "CCIP_FEE_TOKEN"
  | TREASURY_SEED_ASSET => "TREASURY_SEED_ASSET"

structure RequiredBalance where
  category : RequiredBalanceCategory
  chainId : Nat
  token : Option String
  symbol : String
  decimals : Nat
  amount : String
  holder : String
  purpose : String

inductive SignerRole where
  | DEPLOYER
  | POLICY_ADMIN
  | CAPABILITY_ISSUER
  | ENS_OWNER
  | CRE_OWNER
  | APPROVER
  deriving DecidableEq

def SignerRole.text : SignerRole → String
  | DEPLOYER => "DEPLOYER"
  | POLICY_ADMIN => "POLICY_ADMIN"
  | CAPABILITY_ISSUER => "CAPABILITY_ISSUER"
  | ENS_OWNER => "ENS_OWNER"
  | CRE_OWNER => "CRE_OWNER"
  | APPROVER => "APPROVER"

inductive SignerMode where
  | BROWSER_WALLET
  | LOCAL_BRIDGE_WALLET

def SignerMode.text : SignerMode → String
  | BROWSER_WALLET => "BROWSER_WALLET"
  | LOCAL_BRIDGE_WALLET => "LOCAL_BRIDGE_WALLET"

structure SignerRequirement where
  signerId : String
  role : SignerRole
  address : Option String
  mode : SignerMode
  chainIds : List Nat
  authorizes : String

inductive AuthorizationModel where
  | SINGLE_EOA
  | SEPARATED_ROLES
  | MULTISIG

def AuthorizationModel.text : AuthorizationModel → String
  | SINGLE_EOA => "SINGLE_EOA"
  | SEPARATED_ROLES => "SEPARATED_ROLES"
  | MULTISIG => "MULTISIG"

structure DeploymentManifest where
  manifestId : String
  projectId : String
  buildId : String
  blueprintRevision : Nat
  buildRevision : Nat
  strategyHash : String
  organizationHash : Option String
  gitCommit : String
  environment : DeploymentEnvironment
  contracts : List ManifestContract
  ens : List ManifestEns
  creWorkflows : List ManifestCreWorkflow
  runtimeImages : List ManifestRuntimeImage
  adapters : List ManifestAdapter
  authorizationModel : AuthorizationModel
  requiredSigners : List SignerRequirement
  requiredBalances : List RequiredBalance
  generatedAt : String

/-! ## 2. The identity of a manifest -/

def Compiler.json (c : Compiler) : Json :=
  .obj [("solc", .str c.solc), ("optimizer", .bool c.optimizer), ("runs", .num (.int c.runs)),
    ("evmVersion", .str c.evmVersion)]

def ManifestContract.json (c : ManifestContract) : Json :=
  .obj [("name", .str c.name), ("chainId", jsonNat c.chainId),
    ("disposition", .str c.disposition.text), ("address", jsonOr .str c.address),
    ("runtimeCodeHash", jsonOr .str c.runtimeCodeHash),
    ("creationCodeHash", jsonOr .str c.creationCodeHash),
    ("compiler", jsonOr Compiler.json c.compiler)]

def ManifestEns.json (e : ManifestEns) : Json :=
  .obj [("name", .str e.name), ("node", .str e.node), ("chainId", jsonNat e.chainId),
    ("resolver", .str e.resolver), ("boundAgent", .str e.boundAgent)]

def ManifestCreWorkflow.json (w : ManifestCreWorkflow) : Json :=
  .obj [("workflowName", .str w.workflowName), ("registry", .str w.registry),
    ("binaryHash", .str w.binaryHash), ("configHash", .str w.configHash),
    ("workflowHash", .str w.workflowHash), ("sourceTreeHash", .str w.sourceTreeHash),
    ("creCliVersion", .str w.creCliVersion), ("initialState", .str "PAUSED")]

def ManifestRuntimeImage.json (i : ManifestRuntimeImage) : Json :=
  .obj [("agentId", .str i.agentId), ("tag", .str i.tag),
    ("imageDigest", jsonOr .str i.imageDigest), ("sbomDigest", jsonOr .str i.sbomDigest),
    ("provenanceDigest", jsonOr .str i.provenanceDigest),
    ("vulnerabilityReportDigest", jsonOr .str i.vulnerabilityReportDigest),
    ("baseImageDigest", jsonOr .str i.baseImageDigest)]

def ManifestAdapter.json (a : ManifestAdapter) : Json :=
  .obj [("adapterId", .str a.adapterId), ("version", .str a.version),
    ("artifactHash", .str a.artifactHash)]

def RequiredBalance.json (b : RequiredBalance) : Json :=
  .obj [("category", .str b.category.text), ("chainId", jsonNat b.chainId),
    ("token", jsonOr .str b.token), ("symbol", .str b.symbol), ("decimals", jsonNat b.decimals),
    ("amount", .str b.amount), ("holder", .str b.holder), ("purpose", .str b.purpose)]

def SignerRequirement.json (s : SignerRequirement) : Json :=
  .obj [("signerId", .str s.signerId), ("role", .str s.role.text),
    ("address", jsonOr .str s.address), ("mode", .str s.mode.text),
    ("chainIds", .arr (s.chainIds.map jsonNat)), ("authorizes", .str s.authorizes)]

def DEPLOYMENT_MANIFEST_VERSION : String := "contextlock.deployment-manifest/v1"

/-- `manifestIdentity`: everything but `generatedAt` and `manifestId`. -/
def manifestIdentity (m : DeploymentManifest) : Json :=
  .obj [("schemaVersion", .str DEPLOYMENT_MANIFEST_VERSION), ("projectId", .str m.projectId),
    ("buildId", .str m.buildId), ("blueprintRevision", jsonNat m.blueprintRevision),
    ("buildRevision", jsonNat m.buildRevision), ("strategyHash", .str m.strategyHash),
    ("organizationHash", jsonOr .str m.organizationHash), ("gitCommit", .str m.gitCommit),
    ("environment", m.environment.json),
    ("contracts", .arr (m.contracts.map ManifestContract.json)),
    ("ens", .arr (m.ens.map ManifestEns.json)),
    ("creWorkflows", .arr (m.creWorkflows.map ManifestCreWorkflow.json)),
    ("runtimeImages", .arr (m.runtimeImages.map ManifestRuntimeImage.json)),
    ("adapters", .arr (m.adapters.map ManifestAdapter.json)),
    ("authorizationModel", .str m.authorizationModel.text),
    ("requiredSigners", .arr (m.requiredSigners.map SignerRequirement.json)),
    ("requiredBalances", .arr (m.requiredBalances.map RequiredBalance.json)),
    ("policyInitialState", .str "DISABLED"), ("runtimeInitialState", .str "INACTIVE"),
    ("creInitialState", .str "PAUSED")]

def manifestHash (m : DeploymentManifest) : String := digestOf (manifestIdentity m)

/-! ## 3. Pinned artifacts -/

/-- A text as the condition of an `if`: `null` and the empty text are false. -/
def truthy : Option String → Option String
  | some s => if s = "" then none else some s
  | none => none

theorem eq_of_truthy {o : Option String} {s : String} (h : truthy o = some s) : o = some s := by
  cases o with
  | none => cases h
  | some t =>
    simp only [truthy] at h
    by_cases ht : t = ""
    · rw [if_pos ht] at h
      cases h
    · rw [if_neg ht] at h
      exact h

/-- The artifact `kind:id` pinned by a hash, where there is one. -/
def pin (kind id : String) (hash : Option String) : List (String × String) :=
  (truthy hash).toList.map fun h => (kind ++ ":" ++ id, h)

/-- `pinnedArtifacts`, each under its key `kind:id`. -/
def pinnedArtifacts (m : DeploymentManifest) : List (String × String) :=
  [("strategy:" ++ m.buildId, m.strategyHash)]
    ++ pin "organization" m.buildId m.organizationHash
    ++ m.contracts.flatMap (fun c =>
      let id := c.name ++ "@" ++ toString c.chainId
      pin "contract-runtime-code" id c.runtimeCodeHash
        ++ pin "contract-creation-code" id c.creationCodeHash)
    ++ m.creWorkflows.flatMap (fun w =>
      [("cre-binary:" ++ w.workflowName, w.binaryHash),
       ("cre-config:" ++ w.workflowName, w.configHash),
       ("cre-source:" ++ w.workflowName, w.sourceTreeHash)])
    ++ m.runtimeImages.flatMap (fun i =>
      pin "runtime-image" i.agentId i.imageDigest ++ pin "runtime-sbom" i.agentId i.sbomDigest
        ++ pin "runtime-provenance" i.agentId i.provenanceDigest)
    ++ m.adapters.map fun a => ("adapter:" ++ a.adapterId ++ "@" ++ a.version, a.artifactHash)

end ContextLock.Deploy
