/-
  Subject:   The Blueprint of an agent, as its schema admits it.

  A financial parameter is known with a value or unknown with a reason, never absent. Limits are
  in US cents and not negative. What the schema asks beyond the types is `fits`; fields that are
  one literal (the chain, the keys the agent does not hold, the terminal DENY) are constants.
-/
import ContextLock.Adapters.Resolver
import ContextLock.Js.Schema

namespace ContextLock.Lab

open Js
open Adapters (DataTrustClass)

/-! ## 1. Known and unknown -/

inductive RequiredBefore where
  | BUILD
  | DEPLOY
  deriving DecidableEq

/-- `MaybeUnknown`: there is no absent state. -/
inductive Maybe (α : Type) where
  | known (value : α)
  | unknown (reason : String) (requiredBefore : RequiredBefore)
  deriving DecidableEq

namespace Maybe

def value? {α : Type} : Maybe α → Option α
  | known value => some value
  | unknown _ _ => none

def isKnown {α : Type} (m : Maybe α) : Bool := m.value?.isSome

def blocking {α : Type} (path : String) : Maybe α → List (String × String)
  | unknown reason .BUILD => [(path, reason)]
  | _ => []

/-- The value passes its check, an unknown has a reason. -/
def fits {α : Type} (check : α → Bool) : Maybe α → Bool
  | known value => check value
  | unknown reason _ => reason ≠ "" && textLength reason ≤ 500

end Maybe

/-! ## 2. The schema -/

structure Identity where
  agentId : String
  ensName : String
  agentAddress : Maybe String

structure ProtocolContract where
  role : String
  address : Maybe String

structure Protocol where
  id : String
  contracts : List ProtocolContract

structure Asset where
  symbol : String
  address : Maybe String

structure Trigger where
  id : String
  thresholdIsConfidential : Bool
  publicThreshold : Option (Maybe String)

inductive TargetPolicy where
  | fixedAllowlist (allowed : List (Maybe String))
  | protocolResolved (protocolRef contractRole : String)
  | arbitrary (justification : String)

inductive RecipientPolicy where
  | selfOnly
  | fixedAllowlist (allowed : List (Maybe String))
  | arbitrary (justification : String)
  deriving DecidableEq

inductive MaxAmountPolicy where
  | exactActionAmount
  | declaredCap
  deriving DecidableEq

structure ActionApproval where
  assetSymbol : String
  spenderRole : String
  maxAmountPolicy : MaxAmountPolicy

structure Action where
  id : String
  kind : String
  displayName : String
  protocolRef : String
  targetPolicy : TargetPolicy
  recipientPolicy : RecipientPolicy
  spendsAssets : List String
  approvals : List ActionApproval

structure Permission where
  statement : String
  actionRef : Option String

structure Permissions where
  allowed : List Permission
  denied : List Permission

structure AutonomousPolicy where
  maxValueUsdCents : Maybe Nat
  allowedActionRefs : List String

structure PerActionLimit where
  actionRef : String
  autonomousMaxUsdCents : Maybe Nat
  escalationMinUsdCents : Maybe Nat
  escalationMaxUsdCents : Maybe Nat

inductive Mechanism where
  | ledgerDevice
  | approvalRegistryStandin
  deriving DecidableEq

structure EscalationPolicy where
  minValueUsdCents : Maybe Nat
  maxValueUsdCents : Maybe Nat
  mechanism : Mechanism

inductive Placement where
  | creConfidential
  | none
  deriving DecidableEq

structure ConfidentialPolicy where
  required : Bool
  placement : Placement

structure ContextSource where
  id : String
  dataKind : String
  minimumTrustClass : DataTrustClass
  maxAgeMs : Nat
  fallbackAllowed : Bool

inductive BindingRole where
  | EXECUTION
  | STATE_DATA
  | VERIFIED_MARKET_DATA
  | EXTERNAL_CONTEXT
  | TRIGGER
  | CROSS_CHAIN
  deriving DecidableEq

structure AdapterBinding where
  adapterId : String
  adapterVersion : String
  role : BindingRole
  configRef : String

structure DataRequirement where
  key : String
  kind : String
  minimumTrustClass : DataTrustClass
  maxAgeMs : Nat
  fallbackMaxAgeMs : Option Nat

inductive CapabilityBinding where
  | chainId
  | target
  | calldataHash
  | value
  | nonce
  | expiry
  | agentIdentityHash
  | policyHash
  | authorizationId
  deriving DecidableEq

structure CapabilityPolicy where
  ttlSeconds : Nat
  bindings : List CapabilityBinding

structure CreRequirements where
  required : Bool
  verdicts : List String

structure LedgerRequirements where
  humanApprovalRequired : Bool
  blockerRef : Option String

structure GeneratedModule where
  kind : String
  reusesContextLockCore : Bool

structure Blueprint where
  revision : Nat
  identity : Identity
  protocols : List Protocol
  assets : List Asset
  triggers : List Trigger
  actions : List Action
  permissions : Permissions
  autonomousPolicy : AutonomousPolicy
  escalationPolicy : EscalationPolicy
  perActionLimits : List PerActionLimit
  confidentialPolicy : ConfidentialPolicy
  contextSources : List ContextSource
  adapters : List AdapterBinding
  dataRequirements : List DataRequirement
  capabilityPolicy : CapabilityPolicy
  cre : CreRequirements
  ledger : LedgerRequirements
  executorAddress : Maybe String
  simulationScenarios : List String
  generatedModules : List GeneratedModule

/-- The chain of an identity, of an execution and of a protocol: one literal. -/
def BLUEPRINT_CHAIN_ID : Int := 11155111

/-! ## 3. What the schema asks of texts and numbers -/

/-- A first character of one class, then `lo` to `hi` of another. -/
def shaped (first rest : Char → Bool) (lo hi : Nat) (s : String) : Bool :=
  match s.toList with
  | [] => false
  | c :: cs => first c && cs.all rest && lo ≤ cs.length && cs.length ≤ hi

def lowerChar (c : Char) : Bool := 'a' ≤ c && c ≤ 'z'

def upperChar (c : Char) : Bool := 'A' ≤ c && c ≤ 'Z'

def digitChar (c : Char) : Bool := '0' ≤ c && c ≤ '9'

/-- `idSchema`. -/
def idFits : String → Bool :=
  shaped (fun c => lowerChar c || digitChar c) (fun c => lowerChar c || digitChar c || c = '-') 0 62

def kindFits : String → Bool :=
  shaped upperChar (fun c => upperChar c || digitChar c || c = '_') 2 63

def scenarioFits : String → Bool :=
  shaped upperChar (fun c => upperChar c || digitChar c || c = '_' || c = '-') 2 63

def adapterIdFits : String → Bool :=
  shaped lowerChar (fun c => lowerChar c || digitChar c || c = '-') 2 63

def requirementKeyFits : String → Bool :=
  shaped (fun c => lowerChar c || upperChar c)
    (fun c => lowerChar c || upperChar c || digitChar c || c = '_' || c = '-') 0 63

/-- `/^\d+\.\d+\.\d+$/`. -/
def exactVersion (s : String) : Bool :=
  let parts := s.toList.splitOn '.'
  parts.length = 3 && parts.all fun part => part ≠ [] && part.all digitChar

def TargetPolicy.fits : TargetPolicy → Bool
  | fixedAllowlist allowed => allowed ≠ [] && allowed.all (·.fits isAddress)
  | protocolResolved protocolRef contractRole => idFits protocolRef && contractRole ≠ ""
  | arbitrary justification => 40 ≤ textLength justification

def RecipientPolicy.fits : RecipientPolicy → Bool
  | selfOnly => true
  | fixedAllowlist allowed => allowed ≠ [] && allowed.all (·.fits isAddress)
  | arbitrary justification => 40 ≤ textLength justification

def Action.fits (a : Action) : Bool :=
  idFits a.id && kindFits a.kind && a.displayName ≠ "" && idFits a.protocolRef &&
  a.targetPolicy.fits && a.recipientPolicy.fits

def Permission.fits (p : Permission) : Bool := p.statement ≠ "" && p.actionRef.all idFits

def PerActionLimit.fits (l : PerActionLimit) : Bool :=
  idFits l.actionRef && l.autonomousMaxUsdCents.fits (fun _ => true) &&
  l.escalationMinUsdCents.fits (fun _ => true) && l.escalationMaxUsdCents.fits fun _ => true

def AdapterBinding.fits (b : AdapterBinding) : Bool :=
  adapterIdFits b.adapterId && exactVersion b.adapterVersion && b.configRef ≠ ""

def DataRequirement.fits (r : DataRequirement) : Bool :=
  requirementKeyFits r.key && r.kind ≠ "" && 0 < r.maxAgeMs && r.fallbackMaxAgeMs.all (0 < ·)

/-- `ContextLockAgentBlueprintSchema`, beyond the types of the fields. -/
def Blueprint.fits (bp : Blueprint) : Bool :=
  0 < bp.revision && idFits bp.identity.agentId && 3 ≤ textLength bp.identity.ensName &&
  bp.identity.agentAddress.fits isAddress &&
  bp.protocols ≠ [] && (bp.protocols.all fun p => idFits p.id && p.contracts ≠ [] &&
    p.contracts.all fun c => c.role ≠ "" && c.address.fits isAddress) &&
  bp.assets ≠ [] && (bp.assets.all fun a =>
    a.symbol ≠ "" && textLength a.symbol ≤ 16 && a.address.fits isAddress) &&
  bp.triggers ≠ [] && (bp.triggers.all fun t =>
    idFits t.id && t.publicThreshold.all (·.fits fun _ => true)) &&
  bp.actions ≠ [] && bp.actions.all Action.fits &&
  bp.permissions.denied ≠ [] && bp.permissions.allowed.all Permission.fits &&
  bp.permissions.denied.all Permission.fits &&
  bp.autonomousPolicy.maxValueUsdCents.fits (fun _ => true) &&
  bp.autonomousPolicy.allowedActionRefs.all idFits &&
  bp.escalationPolicy.minValueUsdCents.fits (fun _ => true) &&
  bp.escalationPolicy.maxValueUsdCents.fits (fun _ => true) &&
  bp.perActionLimits.all PerActionLimit.fits &&
  (bp.contextSources.all fun s => idFits s.id && s.dataKind ≠ "" && 0 < s.maxAgeMs) &&
  bp.adapters.all AdapterBinding.fits && bp.dataRequirements.all DataRequirement.fits &&
  15 ≤ bp.capabilityPolicy.ttlSeconds && bp.capabilityPolicy.ttlSeconds ≤ 3600 &&
  bp.cre.verdicts.all (· ∈ ["ALLOW", "ESCALATE", "DENY"]) &&
  bp.executorAddress.fits isAddress &&
  bp.simulationScenarios ≠ [] && bp.simulationScenarios.all scenarioFits &&
  bp.generatedModules ≠ []

/-! ## 4. Unknowns that block a build -/

def indexed {α : Type} (path : String) (unknowns : String → α → List (String × String))
    (as : List α) : List (String × String) :=
  (as.zipIdx.map fun entry => unknowns (path ++ "." ++ toString entry.2) entry.1).flatten

def TargetPolicy.unknowns (path : String) : TargetPolicy → List (String × String)
  | fixedAllowlist allowed => indexed (path ++ ".allowed") Maybe.blocking allowed
  | _ => []

def RecipientPolicy.unknowns (path : String) : RecipientPolicy → List (String × String)
  | fixedAllowlist allowed => indexed (path ++ ".allowed") Maybe.blocking allowed
  | _ => []

/-- `collectBuildBlockingUnknowns(bp)`. -/
def buildBlockingUnknowns (bp : Blueprint) : List (String × String) :=
  bp.identity.agentAddress.blocking "identity.agentAddress"
  ++ indexed "protocols" (fun path p => indexed (path ++ ".contracts")
      (fun path c => c.address.blocking (path ++ ".address")) p.contracts) bp.protocols
  ++ indexed "assets" (fun path a => a.address.blocking (path ++ ".address")) bp.assets
  ++ indexed "triggers" (fun path t =>
      (t.publicThreshold.map (Maybe.blocking (path ++ ".publicThreshold"))).getD []) bp.triggers
  ++ indexed "actions" (fun path a => a.targetPolicy.unknowns (path ++ ".targetPolicy")
      ++ a.recipientPolicy.unknowns (path ++ ".recipientPolicy")) bp.actions
  ++ bp.autonomousPolicy.maxValueUsdCents.blocking "autonomousPolicy.maxValueUsdCents"
  ++ bp.escalationPolicy.minValueUsdCents.blocking "escalationPolicy.minValueUsdCents"
  ++ bp.escalationPolicy.maxValueUsdCents.blocking "escalationPolicy.maxValueUsdCents"
  ++ indexed "perActionLimits" (fun path l =>
      l.autonomousMaxUsdCents.blocking (path ++ ".autonomousMaxUsdCents")
      ++ l.escalationMinUsdCents.blocking (path ++ ".escalationMinUsdCents")
      ++ l.escalationMaxUsdCents.blocking (path ++ ".escalationMaxUsdCents")) bp.perActionLimits
  ++ bp.executorAddress.blocking "execution.executorAddress"

end ContextLock.Lab
