/-
  Subject:   The registry of approved networks and the fence every write goes through.
-/
import ContextLock.Evm.Host

namespace ContextLock.Network

/-! ## 1. The registry -/

inductive NetworkRole where
  | READ_ONLY_SOURCE
  | TESTNET_EXECUTION
  | LOCAL_FORK
  deriving DecidableEq

/-- `WRITE_CAPABLE_ROLES`. -/
def NetworkRole.writeCapable : NetworkRole → Bool
  | READ_ONLY_SOURCE => false
  | TESTNET_EXECUTION => true
  | LOCAL_FORK => true

/-- `PUBLIC_WRITE_ROLES`. -/
def NetworkRole.publicWrite : NetworkRole → Bool
  | TESTNET_EXECUTION => true
  | _ => false

structure ApprovedNetwork where
  chainId : Int
  role : NetworkRole
  deriving DecidableEq

def APPROVED : List ApprovedNetwork :=
  [⟨11155111, .TESTNET_EXECUTION⟩, ⟨84532, .TESTNET_EXECUTION⟩, ⟨31337, .LOCAL_FORK⟩,
   ⟨1, .READ_ONLY_SOURCE⟩]

def PRODUCTION_CHAIN_IDS : List Int :=
  [1, 10, 56, 100, 130, 137, 146, 250, 252, 324, 480, 1101, 1329, 5000, 8453, 34443, 42161, 42220,
   43114, 59144, 81457, 534352]

def isProductionChain (chainId : Int) : Bool := chainId ∈ PRODUCTION_CHAIN_IDS

def lookupNetwork (chainId : Int) : Option ApprovedNetwork :=
  APPROVED.find? (·.chainId = chainId)

/-! ## 2. The guard -/

/-- The reasons the guard refuses for. -/
inductive ApprovedNetworkReason where
  | PRODUCTION_NETWORK_WRITE_PROHIBITED
  | EXECUTION_NETWORK_NOT_APPROVED
  | NETWORK_ROLE_MISMATCH
  | READ_ONLY_SOURCE_CANNOT_EXECUTE
  | LOCAL_FORK_CANNOT_PUBLICLY_WRITE
  deriving DecidableEq

inductive Intent where
  | PUBLIC_WRITE
  | LOCAL_WRITE
  deriving DecidableEq

/-- `assertExecutionAllowed` for a chain and the role a caller claims for it. -/
def assertExecutionAllowed (chainId : Int) (role : NetworkRole) (intent : Intent) :
    Except ApprovedNetworkReason ApprovedNetwork :=
  if isProductionChain chainId ∧ role ≠ .LOCAL_FORK then
    .error .PRODUCTION_NETWORK_WRITE_PROHIBITED
  else if role = .READ_ONLY_SOURCE then .error .READ_ONLY_SOURCE_CANNOT_EXECUTE
  else match lookupNetwork chainId with
    | none => .error .EXECUTION_NETWORK_NOT_APPROVED
    | some network =>
      if network.role ≠ role then .error .NETWORK_ROLE_MISMATCH
      else if intent = .PUBLIC_WRITE ∧ ¬ network.role.publicWrite then
        .error .LOCAL_FORK_CANNOT_PUBLICLY_WRITE
      else if ¬ network.role.writeCapable then .error .EXECUTION_NETWORK_NOT_APPROVED
      else .ok network

/-- `fenceWriteByChain`: the registry supplies the role, and the role the intent. -/
def fenceWriteByChain (chainId : Int) : Except ApprovedNetworkReason ApprovedNetwork :=
  let role := (lookupNetwork chainId).elim .TESTNET_EXECUTION (·.role)
  let intent := if role = .LOCAL_FORK then Intent.LOCAL_WRITE else .PUBLIC_WRITE
  assertExecutionAllowed chainId role intent

/-- **A passed fence is an approved network that may write.** -/
theorem fenceWriteByChain_ok {chainId : Int} {network : ApprovedNetwork}
    (h : fenceWriteByChain chainId = .ok network) :
    lookupNetwork chainId = some network ∧ network.role.writeCapable = true ∧
      (isProductionChain chainId = true → network.role = .LOCAL_FORK) := by
  simp only [fenceWriteByChain, assertExecutionAllowed, Evm.ite_error_eq_ok] at h
  obtain ⟨hprod, _, h⟩ := h
  cases hn : lookupNetwork chainId with
  | none => simp [hn] at h
  | some n =>
    simp only [hn, Evm.ite_error_eq_ok, Option.elim_some, Except.ok.injEq] at h hprod
    obtain ⟨_, _, hw, rfl⟩ := h
    refine ⟨rfl, not_not.mp hw, fun hp => ?_⟩
    by_contra hr
    exact hprod ⟨hp, hr⟩

end ContextLock.Network
