/-
  Subject:   Recompiling a semantic action for the network it is executed on.
-/
import ContextLock.Js.Map
import ContextLock.Js.Value
import ContextLock.Network.Fences
import Mathlib.Algebra.Order.Field.Rat
import Mathlib.Algebra.Order.Ring.Pow
import Mathlib.Tactic.NormNum

namespace ContextLock.Reality

open Js Network

/-! ## 1. Actions, assets and networks -/

inductive SemanticActionKind where
  | SUPPLY
  | WITHDRAW
  | BORROW
  | REPAY
  | SWAP
  | TRANSFER
  | APPROVE
  | NONE

def SemanticActionKind.text : SemanticActionKind → String
  | SUPPLY => "SUPPLY"
  | WITHDRAW => "WITHDRAW"
  | BORROW => "BORROW"
  | REPAY => "REPAY"
  | SWAP => "SWAP"
  | TRANSFER => "TRANSFER"
  | APPROVE => "APPROVE"
  | NONE => "NONE"

/-- `/^\d+$/`. -/
def DigitText (s : String) : Prop := s.toList ≠ [] ∧ s.toList.all Char.isDigit = true

instance decidableDigitText (s : String) : Decidable (DigitText s) :=
  inferInstanceAs (Decidable (s.toList ≠ [] ∧ s.toList.all Char.isDigit = true))

/-- What the strategy would conceptually do, as `SemanticActionSchema` accepts it. -/
structure SemanticAction where
  kind : SemanticActionKind
  assetId : String
  counterAssetId : Option String
  amount : String
  decimals : Nat
  protocol : String
  amount_digits : DigitText amount
  decimals_le : decimals ≤ 36

structure AssetDeployment where
  chainId : Int
  address : String
  decimals : Nat

structure CanonicalAsset where
  id : String
  deployments : List AssetDeployment

/-- `NetworkRef`: the network a caller names, and for a fork where it was forked from. -/
structure NetworkRef where
  chainId : Int
  role : NetworkRole
  forkedFrom : Option Int
  forkBlock : Option String

inductive ExecutionEnvironment where
  | LOCAL_FORK
  | TESTNET
  deriving DecidableEq

structure EnvironmentBinding where
  executionEnvironment : ExecutionEnvironment
  environmentId : String
  chainId : Int
  forkedFrom : Option Int
  forkBlock : Option String

structure CompiledIntent where
  network : NetworkRef
  protocol : String
  assetAddress : String
  counterAssetAddress : Option String
  amount : String
  decimals : Nat
  kind : SemanticActionKind
  compiledFrom : String
  environmentBinding : EnvironmentBinding

/-- What compilation is refused for, with the values the message names. -/
inductive CompileError where
  | CANNOT_EXECUTE_MAINNET (chainId : Int)
  | GUARD (reason : ApprovedNetworkReason)
  | UNKNOWN_ASSET (assetId : String)
  | NO_DEPLOYMENT (assetId : String) (chainId : Int) (known : List Int)
  | NOT_RECOMPILED (protocol : String) (chainId : Int)
  | CROSS_ENVIRONMENT_ADDRESS (address : String) (chainId : Int) (foreign : Option (String × Int))
  deriving DecidableEq

/-! ## 2. The registry of assets -/

section Assets

variable (ASSETS : List CanonicalAsset)

def BY_ID : Js.Map CanonicalAsset := .ofEntries (ASSETS.map fun a => (a.id, a))

/-- `${chainId}:${lower(address)}`. -/
def chainAddressKey (chainId : Int) (address : String) : String :=
  toString chainId ++ ":" ++ toLowerCase address

def allDeployments : List (CanonicalAsset × AssetDeployment) :=
  ASSETS.flatMap fun asset => asset.deployments.map fun d => (asset, d)

def BY_CHAIN_ADDRESS : Js.Map (CanonicalAsset × AssetDeployment) :=
  .ofEntries ((allDeployments ASSETS).map fun e => (chainAddressKey e.2.chainId e.2.address, e))

def mapAssetToChain (assetId : String) (targetChainId : Int) : Except CompileError AssetDeployment :=
  match (BY_ID ASSETS).get? assetId with
  | none => .error (.UNKNOWN_ASSET assetId)
  | some asset =>
    match asset.deployments.find? (·.chainId = targetChainId) with
    | none =>
      .error (.NO_DEPLOYMENT asset.id targetChainId (asset.deployments.map AssetDeployment.chainId))
    | some deployment => .ok deployment

def foreignDeployment (address : String) : Option (String × Int) :=
  ((BY_CHAIN_ADDRESS ASSETS).entries.find? fun e =>
    toLowerCase e.2.2.address = toLowerCase address).map fun e => (e.2.1.id, e.2.2.chainId)

def assertAddressBelongsToChain (address : String) (targetChainId : Int) : Except CompileError Unit :=
  match (BY_CHAIN_ADDRESS ASSETS).get? (chainAddressKey targetChainId address) with
  | some _ => .ok ()
  | none =>
    .error (.CROSS_ENVIRONMENT_ADDRESS address targetChainId (foreignDeployment ASSETS address))

end Assets

/-! ## 3. Compilation -/

def assertShadowTargetAllowed (ref : NetworkRef) : Except CompileError Unit :=
  if isProductionChain ref.chainId ∧ ref.role ≠ .LOCAL_FORK then
    .error (.CANNOT_EXECUTE_MAINNET ref.chainId)
  else
    match assertExecutionAllowed ref.chainId ref.role
      (if ref.role = .LOCAL_FORK then .LOCAL_WRITE else .PUBLIC_WRITE) with
    | .error reason => .error (.GUARD reason)
    | .ok _ => .ok ()

def addressChainId (network : NetworkRef) : Int :=
  if network.role = .LOCAL_FORK then network.forkedFrom.getD network.chainId else network.chainId

def SemanticAction.counter (action : SemanticAction) : Option String :=
  action.counterAssetId.filter (· ≠ "")

section Compile

variable (ASSETS : List CanonicalAsset)

/-- The deployment of a counter-asset, if there is one. -/
def mapCounter (counter : Option String) (chainId : Int) :
    Except CompileError (Option AssetDeployment) :=
  match counter with
  | none => .ok none
  | some id =>
    match mapAssetToChain ASSETS id chainId with
    | .error e => .error e
    | .ok d => .ok (some d)

def assertTestnetAddresses (network : NetworkRef) (asset : AssetDeployment)
    (counter : Option AssetDeployment) : Except CompileError Unit :=
  if network.role = .TESTNET_EXECUTION then
    match assertAddressBelongsToChain ASSETS asset.address network.chainId with
    | .error e => .error e
    | .ok _ =>
      match counter with
      | none => .ok ()
      | some d => assertAddressBelongsToChain ASSETS d.address network.chainId
  else .ok ()

/-- The environment an intent is bound to; `fork` is the id of the fork, if the caller has one. -/
def environmentBindingOf (network : NetworkRef) (fork : Option String) : EnvironmentBinding :=
  let chainId := toString network.chainId
  if network.role = .LOCAL_FORK then
    ⟨.LOCAL_FORK, fork.getD "unknown-fork", network.chainId, network.forkedFrom, network.forkBlock⟩
  else ⟨.TESTNET, s!"testnet-{chainId}", network.chainId, none, none⟩

/-- The intent that is made of the deployments found. -/
def intentOf (action : SemanticAction) (network : NetworkRef) (fork : Option String)
    (asset : AssetDeployment) (counter : Option AssetDeployment) : CompiledIntent :=
  let kind := action.kind.text
  let assetId := action.assetId
  let chain := toString (addressChainId network)
  { network := network
    protocol := action.protocol
    assetAddress := asset.address
    counterAssetAddress := counter.map AssetDeployment.address
    amount := action.amount
    decimals := asset.decimals
    kind := action.kind
    compiledFrom := s!"semantic {kind} {assetId} recompiled against chain {chain} registry"
    environmentBinding := environmentBindingOf network fork }

def compileForNetwork (protocolAddressFor : String → Int → Option String) (action : SemanticAction)
    (network : NetworkRef) (fork : Option String) : Except CompileError CompiledIntent :=
  match assertShadowTargetAllowed network with
  | .error e => .error e
  | .ok _ =>
    match mapAssetToChain ASSETS action.assetId (addressChainId network) with
    | .error e => .error e
    | .ok asset =>
      match mapCounter ASSETS action.counter (addressChainId network) with
      | .error e => .error e
      | .ok counter =>
        if (protocolAddressFor action.protocol (addressChainId network)).getD "" = "" then
          .error (.NOT_RECOMPILED action.protocol (addressChainId network))
        else
          match assertTestnetAddresses ASSETS network asset counter with
          | .error e => .error e
          | .ok _ => .ok (intentOf action network fork asset counter)

end Compile

/-! ## 4. Mapped addresses -/

section Mapped

variable {ASSETS : List CanonicalAsset}

def Registered (ASSETS : List CanonicalAsset) (assetId : String) (chainId : Int) (address : String) :
    Prop :=
  ∃ asset, (BY_ID ASSETS).get? assetId = some asset ∧
    ∃ d ∈ asset.deployments, d.chainId = chainId ∧ d.address = address

theorem mapAssetToChain_ok {assetId : String} {chainId : Int} {d : AssetDeployment}
    (h : mapAssetToChain ASSETS assetId chainId = .ok d) :
    ∃ asset, (BY_ID ASSETS).get? assetId = some asset ∧ d ∈ asset.deployments ∧ d.chainId = chainId := by
  unfold mapAssetToChain at h
  cases hasset : (BY_ID ASSETS).get? assetId with
  | none =>
    rw [hasset] at h
    cases h
  | some asset =>
    rw [hasset] at h
    dsimp only at h
    cases hfind : asset.deployments.find? (·.chainId = chainId) with
    | none =>
      rw [hfind] at h
      cases h
    | some deployment =>
      rw [hfind] at h
      cases h
      exact ⟨asset, rfl, List.mem_of_find?_eq_some hfind,
        by simpa using List.find?_some hfind⟩

theorem registered_of_mapped {assetId : String} {chainId : Int} {d : AssetDeployment}
    (h : mapAssetToChain ASSETS assetId chainId = .ok d) :
    Registered ASSETS assetId chainId d.address := by
  obtain ⟨asset, hasset, hmem, hchain⟩ := mapAssetToChain_ok h
  exact ⟨asset, hasset, d, hmem, hchain, rfl⟩

theorem assertAddressBelongsToChain_mapped {assetId : String} {chainId : Int} {d : AssetDeployment}
    (h : mapAssetToChain ASSETS assetId chainId = .ok d) :
    assertAddressBelongsToChain ASSETS d.address chainId = .ok () := by
  obtain ⟨asset, hasset, hmem, rfl⟩ := mapAssetToChain_ok h
  obtain ⟨e, he, _, rfl⟩ := Map.mem_of_get?_ofEntries hasset
  obtain ⟨a, ha, rfl⟩ := List.mem_map.mp he
  have hentry : (a, d) ∈ allDeployments ASSETS :=
    List.mem_flatMap.mpr ⟨a, ha, List.mem_map_of_mem hmem⟩
  have hkey : chainAddressKey d.chainId d.address ∈
      ((allDeployments ASSETS).map fun e => (chainAddressKey e.2.chainId e.2.address, e)).map
        Prod.fst :=
    List.mem_map_of_mem (List.mem_map_of_mem hentry)
  unfold assertAddressBelongsToChain
  cases hget : (BY_CHAIN_ADDRESS ASSETS).get? (chainAddressKey d.chainId d.address) with
  | none => exact absurd hget (Map.get?_ofEntries_ne_none hkey)
  | some found => rfl

theorem mapCounter_ok {counter : Option String} {chainId : Int} {d : AssetDeployment}
    (h : mapCounter ASSETS counter chainId = .ok (some d)) :
    ∃ id, counter = some id ∧ mapAssetToChain ASSETS id chainId = .ok d := by
  cases counter with
  | none => cases h
  | some id =>
    unfold mapCounter at h
    cases hmap : mapAssetToChain ASSETS id chainId with
    | error e =>
      simp only [hmap] at h
      cases h
    | ok d' =>
      simp only [hmap] at h
      cases h
      exact ⟨id, rfl, hmap⟩

theorem assertTestnetAddresses_mapped {action : SemanticAction} {network : NetworkRef}
    {asset : AssetDeployment} {counter : Option AssetDeployment}
    (hasset : mapAssetToChain ASSETS action.assetId (addressChainId network) = .ok asset)
    (hcounter : mapCounter ASSETS action.counter (addressChainId network) = .ok counter) :
    assertTestnetAddresses ASSETS network asset counter = .ok () := by
  unfold assertTestnetAddresses
  by_cases hrole : network.role = .TESTNET_EXECUTION
  · have hchain : addressChainId network = network.chainId :=
      if_neg (by rw [hrole]; decide)
    rw [hchain] at hasset hcounter
    rw [if_pos hrole, assertAddressBelongsToChain_mapped hasset]
    cases counter with
    | none => rfl
    | some d =>
      obtain ⟨id, _, hmap⟩ := mapCounter_ok hcounter
      exact assertAddressBelongsToChain_mapped hmap
  · rw [if_neg hrole]

end Mapped

/-! ## 5. What a compiled intent says -/

section Preserves

variable {ASSETS : List CanonicalAsset} {protocolAddressFor : String → Int → Option String}
  {action : SemanticAction} {network : NetworkRef} {fork : Option String}

def textValue (s : String) : Nat := s.toList.foldl (fun n c => 10 * n + (c.toNat - 48)) 0

def quantity (amount : String) (decimals : Nat) : Rat := textValue amount / 10 ^ decimals

/-- The action can be compiled for the network: it is permitted, the asset and the counter-asset
    have these deployments, and the protocol has an address. -/
structure Compilable (ASSETS : List CanonicalAsset)
    (protocolAddressFor : String → Int → Option String) (action : SemanticAction)
    (network : NetworkRef) (asset : AssetDeployment) (counter : Option AssetDeployment) : Prop where
  allowed : assertShadowTargetAllowed network = .ok ()
  asset : mapAssetToChain ASSETS action.assetId (addressChainId network) = .ok asset
  counter : mapCounter ASSETS action.counter (addressChainId network) = .ok counter
  protocol : (protocolAddressFor action.protocol (addressChainId network)).getD "" ≠ ""

theorem compileForNetwork_ok {intent : CompiledIntent} :
    compileForNetwork ASSETS protocolAddressFor action network fork = .ok intent ↔
      ∃ asset counter, Compilable ASSETS protocolAddressFor action network asset counter ∧
        intent = intentOf action network fork asset counter := by
  constructor
  · intro h
    unfold compileForNetwork at h
    cases hallowed : assertShadowTargetAllowed network with
    | error e =>
      rw [hallowed] at h
      cases h
    | ok u =>
      cases hasset : mapAssetToChain ASSETS action.assetId (addressChainId network) with
      | error e =>
        simp only [hallowed, hasset] at h
        cases h
      | ok asset =>
        cases hcounter : mapCounter ASSETS action.counter (addressChainId network) with
        | error e =>
          simp only [hallowed, hasset, hcounter] at h
          cases h
        | ok counter =>
          simp only [hallowed, hasset, hcounter, Evm.ite_error_eq_ok,
            assertTestnetAddresses_mapped hasset hcounter, Except.ok.injEq] at h
          exact ⟨asset, counter, ⟨hallowed, hasset, hcounter, h.1⟩, h.2.symm⟩
  · intro h
    obtain ⟨asset, counter, hcompilable, rfl⟩ := h
    unfold compileForNetwork
    simp only [hcompilable.allowed, hcompilable.asset, hcompilable.counter,
      assertTestnetAddresses_mapped hcompilable.asset hcompilable.counter]
    exact if_neg hcompilable.protocol

/-- The intent says what the action says: the same quantity, kind and protocol, and addresses that
    are registered for the action's assets on the chain whose addresses are the right ones. -/
structure Preserves (ASSETS : List CanonicalAsset) (action : SemanticAction) (network : NetworkRef)
    (intent : CompiledIntent) : Prop where
  quantity : quantity intent.amount intent.decimals = quantity action.amount action.decimals
  kind : intent.kind = action.kind
  protocol : intent.protocol = action.protocol
  asset : Registered ASSETS action.assetId (addressChainId network) intent.assetAddress
  counter : ∀ address, intent.counterAssetAddress = some address →
    ∃ id, action.counterAssetId = some id ∧ Registered ASSETS id (addressChainId network) address

theorem quantity_eq_iff {amount : String} {m n : Nat} :
    quantity amount m = quantity amount n ↔ textValue amount = 0 ∨ m = n := by
  unfold quantity
  by_cases hzero : textValue amount = 0
  · simp [hzero]
  · have hne : (textValue amount : Rat) ≠ 0 := Nat.cast_ne_zero.mpr hzero
    have hpow : ∀ k : Nat, (10 : Rat) ^ k ≠ 0 := fun k => pow_ne_zero k (by norm_num)
    have hinj : Function.Injective fun k : Nat => (10 : Rat) ^ k :=
      pow_right_injective₀ (by norm_num) (by norm_num)
    rw [div_eq_div_iff (hpow m) (hpow n), mul_right_inj' hne, or_iff_right hzero, eq_comm]
    exact hinj.eq_iff

/-- **Exactly when compilation preserves the action**, for every registry of assets, action and
    network: where it compiles at all, the amount must be zero, or the deployment must have the
    decimals of the action. -/
theorem preserves_iff :
    (∀ intent, compileForNetwork ASSETS protocolAddressFor action network fork = .ok intent →
        Preserves ASSETS action network intent) ↔
      ∀ asset counter, Compilable ASSETS protocolAddressFor action network asset counter →
        textValue action.amount = 0 ∨ asset.decimals = action.decimals := by
  constructor
  · intro h asset counter hcompilable
    exact quantity_eq_iff.mp
      (h _ (compileForNetwork_ok.mpr ⟨asset, counter, hcompilable, rfl⟩)).quantity
  · intro h intent hintent
    obtain ⟨asset, counter, hcompilable, rfl⟩ := compileForNetwork_ok.mp hintent
    refine ⟨quantity_eq_iff.mpr (h asset counter hcompilable), rfl, rfl,
      registered_of_mapped hcompilable.asset, fun address haddress => ?_⟩
    obtain ⟨d, rfl, rfl⟩ := Option.map_eq_some_iff.mp haddress
    obtain ⟨id, hid, hmap⟩ := mapCounter_ok hcompilable.counter
    have hcounter : action.counterAssetId = some id := (Option.filter_eq_some_iff.mp hid).1
    exact ⟨id, hcounter, registered_of_mapped hmap⟩

/-- USD Coin, as the registry has it. -/
def usdc : CanonicalAsset where
  id := "usdc"
  deployments :=
    [⟨1, "0xA0b86991c6218b36c1d19D4a2e9Eb0cE3606eB48", 6⟩,
     ⟨11155111, "0x1c7D4B196Cb0C7B01d743Fbc6116a902379C7238", 6⟩]

def supplyUsdc (amount : String) (decimals : Nat) (hamount : DigitText amount)
    (hdecimals : decimals ≤ 36) : SemanticAction :=
  ⟨.SUPPLY, "usdc", none, amount, decimals, "aave-v3", hamount, hdecimals⟩

def sepolia : NetworkRef := ⟨11155111, .TESTNET_EXECUTION, none, none⟩

/-- A millionth of a millionth becomes a unit. -/
theorem supply_not_preserved :
    ∃ intent, compileForNetwork [usdc] (fun _ _ => some "0x6Ae43d3271ff6888e7Fc43Fd7321a503ff738951")
        (supplyUsdc "1000000" 18 (by decide) (by decide)) sepolia none = .ok intent ∧
      ¬ Preserves [usdc] (supplyUsdc "1000000" 18 (by decide) (by decide)) sepolia intent := by
  refine ⟨_, compileForNetwork_ok.mpr ⟨_, none, ⟨by decide, rfl, rfl, by decide⟩, rfl⟩, fun h => ?_⟩
  have hequal := quantity_eq_iff.mp h.quantity
  revert hequal
  decide

end Preserves

end ContextLock.Reality
