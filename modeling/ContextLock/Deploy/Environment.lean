/-
  Subject:   Deployment environments, and whether a write to a chain may happen in one.

  The errors of the deployment packages are gathered in one type, as the code catches and
  reads them across packages: a class, its reason code and its detail.
-/
import ContextLock.Js.Sha256
import ContextLock.Network.Fences

namespace ContextLock.Deploy

open Js

/-! ## 1. Errors -/

/-- The kinds of `RpcError`. -/
inductive RpcErrorKind where
  | TIMEOUT
  | RATE_LIMITED
  | TRANSPORT
  | REVERTED
  deriving DecidableEq

def RpcErrorKind.text : RpcErrorKind → String
  | TIMEOUT => "TIMEOUT"
  | RATE_LIMITED => "RATE_LIMITED"
  | TRANSPORT => "TRANSPORT"
  | REVERTED => "REVERTED"

/-- What is thrown: an error of the packages with its reason code, or any other error. A
    refusal of the network guard keeps its code. -/
inductive DeployError where
  | network (reason : Network.ApprovedNetworkReason)
  | environment (reason detail : String)
  | plan (reason detail : String)
  | approval (reason detail : String)
  | cre (reason detail : String)
  | machine (reason detail : String)
  | receipt (reason detail : String)
  | rpc (kind : RpcErrorKind) (detail : String)
  | orchestrator (reason detail : String) (stepId : Option String)
  | other (message : String)
  deriving DecidableEq

def guardCode : Network.ApprovedNetworkReason → String
  | .PRODUCTION_NETWORK_WRITE_PROHIBITED => "PRODUCTION_NETWORK_WRITE_PROHIBITED"
  | .EXECUTION_NETWORK_NOT_APPROVED => "EXECUTION_NETWORK_NOT_APPROVED"
  | .NETWORK_ROLE_MISMATCH => "NETWORK_ROLE_MISMATCH"
  | .READ_ONLY_SOURCE_CANNOT_EXECUTE => "READ_ONLY_SOURCE_CANNOT_EXECUTE"
  | .LOCAL_FORK_CANNOT_PUBLICLY_WRITE => "LOCAL_FORK_CANNOT_PUBLICLY_WRITE"

def DeployError.message : DeployError → String
  | network reason => guardCode reason
  | environment reason detail | plan reason detail | approval reason detail | cre reason detail
  | machine reason detail | receipt reason detail => reason ++ ": " ++ detail
  | rpc kind detail => "RPC-" ++ kind.text ++ ": " ++ detail
  | orchestrator reason detail stepId =>
    reason ++ (stepId.elim "" fun id => " [" ++ id ++ "]") ++ ": " ++ detail
  | other message => message

/-! ## 2. Environments -/

inductive EnvironmentKind where
  | LOCAL
  | FORK
  | TESTNET
  | SHADOW_MAINNET
  | MAINNET
  deriving DecidableEq

def EnvironmentKind.text : EnvironmentKind → String
  | LOCAL => "LOCAL"
  | FORK => "FORK"
  | TESTNET => "TESTNET"
  | SHADOW_MAINNET => "SHADOW_MAINNET"
  | MAINNET => "MAINNET"

structure ChainTarget where
  chainId : Nat
  name : String
  chainSelector : Option String
  nativeSymbol : String
  nativeDecimals : Nat
  explorer : Option String

structure DeploymentEnvironment where
  environmentId : String
  kind : EnvironmentKind
  chains : List ChainTarget
  writesPermitted : Bool
  allowedCreRegistries : List String

/-! ## 3. Their canonical form -/

/-- A `number`. -/
def jsonNat (n : Nat) : Json := .num (.int n)

/-- A value or `null`. -/
def jsonOr {α : Type} (f : α → Json) : Option α → Json
  | none => .null
  | some a => f a

def ChainTarget.json (c : ChainTarget) : Json :=
  .obj [("chainId", jsonNat c.chainId), ("name", .str c.name),
    ("chainSelector", jsonOr .str c.chainSelector), ("nativeSymbol", .str c.nativeSymbol),
    ("nativeDecimals", jsonNat c.nativeDecimals), ("explorer", jsonOr .str c.explorer)]

def DEPLOYMENT_ENVIRONMENT_VERSION : String := "contextlock.deployment-environment/v1"

def DeploymentEnvironment.json (env : DeploymentEnvironment) : Json :=
  .obj [("schemaVersion", .str DEPLOYMENT_ENVIRONMENT_VERSION),
    ("environmentId", .str env.environmentId), ("kind", .str env.kind.text),
    ("chains", .arr (env.chains.map ChainTarget.json)),
    ("writesPermitted", .bool env.writesPermitted),
    ("allowedCreRegistries", .arr (env.allowedCreRegistries.map .str))]

/-! ## 4. The write check -/

def KNOWN_MAINNET_CHAIN_IDS : List Nat :=
  [1, 10, 56, 100, 137, 8453, 42161, 43114, 59144, 534352, 324, 5000, 130, 480]

/-- `assertWriteAllowed`, with its checks in the order of the source. -/
def assertWriteAllowed (env : DeploymentEnvironment) (chainId : Nat) : Except DeployError Unit :=
  if env.kind = .MAINNET then
    .error (.environment "ENV-MAINNET-WRITE-PROHIBITED" ("environment \"" ++ env.environmentId
      ++ "\" targets MAINNET; onchain writes are prohibited until P27"))
  else if env.kind = .SHADOW_MAINNET then
    .error (.environment "ENV-SHADOW-MAINNET-READ-ONLY" ("environment \"" ++ env.environmentId
      ++ "\" is SHADOW_MAINNET, which is read-only"))
  else if env.writesPermitted = false then
    .error (.environment "ENV-MAINNET-WRITE-PROHIBITED" ("environment \"" ++ env.environmentId
      ++ "\" does not permit writes"))
  else if ¬ env.chains.any (·.chainId = chainId) then
    .error (.environment "ENV-CHAIN-NOT-IN-ENVIRONMENT" ("chain " ++ toString chainId
      ++ " is not one of this environment's chains ("
      ++ ", ".intercalate (env.chains.map fun c => toString c.chainId) ++ ")"))
  else if chainId ∈ KNOWN_MAINNET_CHAIN_IDS then
    .error (.environment "ENV-MAINNET-WRITE-PROHIBITED" ("chain " ++ toString chainId
      ++ " is a known mainnet; a " ++ env.kind.text ++ " environment may not write to it"))
  else match Network.fenceWriteByChain chainId with
    | .error reason => .error (.network reason)
    | .ok _ => .ok ()

end ContextLock.Deploy
