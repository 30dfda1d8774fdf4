/-
  Subject:   The two identity verifiers behind `IAgentIdentityVerifier`.

  `LocalAgentIdentityVerifier` keeps a table of bound agents; `EnsAgentIdentityVerifier` reads
  an ENSv2 registry, code of somebody else, whose answers are raw bytes or a failure.
-/
import ContextLock.Evm.Host

namespace ContextLock

open Evm

/-! ## 1. The ENSv2 registry -/

/-- What a registry answers to the three views; `none` is a failing call. -/
structure EnsRegistry where
  ownerOf : Uint256 → Option Bytes
  getExpiry : Uint256 → Option Bytes
  getTokenId : Uint256 → Option Bytes

/-- `abi.decode(ret, (T))` for a `T` of `n` bits; `none` is the revert of a malformed answer. -/
def decodeAnswer (n : Nat) (ret : Bytes) : Option (BitVec n) :=
  if ret.length < 32 then none else narrow n (wordAt ret 0)

theorem decodeAnswer_encode {n : Nat} (hn : n ≤ 256) (x : BitVec n) :
    decodeAnswer n (abiEncode [toWord x]) = some x := by
  have hw : wordAt (abiEncode [toWord x]) (32 * 0) = toWord x := wordAt_abiEncode (by simp)
  rw [Nat.mul_zero] at hw
  unfold decodeAnswer
  rw [hw, narrow_toWord hn]
  simp

/-! ## 2. `LocalAgentIdentityVerifier` -/

namespace LocalAgentIdentityVerifier

inductive Error where
  | notOwner
  | zeroOwner

structure Storage where
  owner : Address
  boundAgent : Bytes32 → Address
  resolutionBroken : Bool

/-- The modifier `onlyOwner`. -/
def onlyOwner (sender : Address) (s : Storage) (body : Except Error Storage) :
    Except Error Storage :=
  if sender ≠ s.owner then .error .notOwner else body

inductive Call where
  | bind (agentIdentityHash : Bytes32) (agent : Address)
  | revoke (agentIdentityHash : Bytes32)
  | setResolutionBroken (broken : Bool)

def bind (sender : Address) (s : Storage) (agentIdentityHash : Bytes32) (agent : Address) :
    Except Error Storage :=
  onlyOwner sender s
    (.ok { s with boundAgent := Function.update s.boundAgent agentIdentityHash agent })

def revoke (sender : Address) (s : Storage) (agentIdentityHash : Bytes32) : Except Error Storage :=
  onlyOwner sender s
    (.ok { s with boundAgent := Function.update s.boundAgent agentIdentityHash 0 })

def setResolutionBroken (sender : Address) (s : Storage) (broken : Bool) : Except Error Storage :=
  onlyOwner sender s (.ok { s with resolutionBroken := broken })

def Call.apply (sender : Address) (s : Storage) : Call → Except Error Storage
  | .bind a agent => LocalAgentIdentityVerifier.bind sender s a agent
  | .revoke a => LocalAgentIdentityVerifier.revoke sender s a
  | .setResolutionBroken b => LocalAgentIdentityVerifier.setResolutionBroken sender s b

def Storage.isIdentityCurrent (s : Storage) (agentIdentityHash : Bytes32) (agent : Address) : Bool :=
  if s.resolutionBroken then false
  else
    let bound := s.boundAgent agentIdentityHash
    if bound = 0 then false else bound = agent

/-- **A positive answer**: the identity is bound to this agent, which is not zero. -/
theorem local_current_iff {s : Storage} {a : Bytes32} {agent : Address} :
    s.isIdentityCurrent a agent = true ↔
      s.resolutionBroken = false ∧ agent ≠ 0 ∧ s.boundAgent a = agent := by
  unfold Storage.isIdentityCurrent
  by_cases hb : s.resolutionBroken <;> by_cases hz : s.boundAgent a = 0 <;>
    by_cases ha : s.boundAgent a = agent <;> simp_all

end LocalAgentIdentityVerifier

/-! ## 3. `EnsAgentIdentityVerifier` -/

namespace EnsAgentIdentityVerifier

inductive Error where
  | notOwner
  | zeroOwner
  | alreadyBound
  | notBound
  /-- `require`: the ENS name is not currently registered. -/
  | notRegistered
  /-- A call to the registry failed or its answer did not decode. -/
  | registryCall
  deriving DecidableEq

structure Binding where
  registry : Address
  labelId : Uint256
  expectedNameOwner : Address
  expectedAgent : Address
  boundTokenId : Uint256
  bindingVersion : Uint64
  exists_ : Bool

def Binding.zero : Binding := ⟨0, 0, 0, 0, 0, 0, false⟩

structure Storage where
  owner : Address
  bindings : Bytes32 → Binding
  simulateRegistryOutage : Bool

def computeIdentityHash (registry : Address) (labelId : Uint256) (nameOwner agent : Address)
    (tokenId : Uint256) (bindingVersion : Uint64) : Bytes32 :=
  keccak256 (abiEncode [toWord registry, labelId, toWord nameOwner, toWord agent, tokenId,
    toWord bindingVersion])

/-- The modifier `onlyOwner`. -/
def onlyOwner (sender : Address) (s : Storage) (body : Except Error Storage) :
    Except Error Storage :=
  if sender ≠ s.owner then .error .notOwner else body

/-- A call of the registry from `bind`: it must succeed and decode. -/
def readAnswer (n : Nat) (answer : Option Bytes) : Except Error (BitVec n) :=
  match answer.bind (decodeAnswer n) with
  | some x => .ok x
  | none => .error .registryCall

def bind (ens : Address → EnsRegistry) (sender : Address) (s : Storage) (registry : Address)
    (labelId : Uint256) (expectedAgent : Address) (bindingVersion : Uint64) :
    Except Error Storage :=
  onlyOwner sender s do
    let tokenId ← readAnswer 256 ((ens registry).getTokenId labelId)
    let nameOwner ← readAnswer 160 ((ens registry).ownerOf tokenId)
    if nameOwner = 0 then .error .notRegistered
    else
      let agentIdentityHash :=
        computeIdentityHash registry labelId nameOwner expectedAgent tokenId bindingVersion
      if (s.bindings agentIdentityHash).exists_ then .error .alreadyBound
      else .ok { s with
        bindings := Function.update s.bindings agentIdentityHash
          { registry, labelId, expectedNameOwner := nameOwner, expectedAgent,
            boundTokenId := tokenId, bindingVersion, exists_ := true } }

def unbind (sender : Address) (s : Storage) (agentIdentityHash : Bytes32) : Except Error Storage :=
  onlyOwner sender s
    (if ¬ (s.bindings agentIdentityHash).exists_ then .error .notBound
     else .ok { s with bindings := Function.update s.bindings agentIdentityHash .zero })

def setSimulateRegistryOutage (sender : Address) (s : Storage) (v : Bool) : Except Error Storage :=
  onlyOwner sender s (.ok { s with simulateRegistryOutage := v })

inductive Call where
  | bind (registry : Address) (labelId : Uint256) (expectedAgent : Address)
      (bindingVersion : Uint64)
  | unbind (agentIdentityHash : Bytes32)
  | setSimulateRegistryOutage (v : Bool)
  deriving DecidableEq

def Call.apply (ens : Address → EnsRegistry) (sender : Address) (s : Storage) :
    Call → Except Error Storage
  | .bind r l a v => EnsAgentIdentityVerifier.bind ens sender s r l a v
  | .unbind a => EnsAgentIdentityVerifier.unbind sender s a
  | .setSimulateRegistryOutage v => EnsAgentIdentityVerifier.setSimulateRegistryOutage sender s v

/-- A low-level read of the registry: `some none` is "not current", `none` the revert of
    `abi.decode` on an answer of the right length that does not fit. -/
def probe (n : Nat) (answer : Option Bytes) : Option (Option (BitVec n)) :=
  match answer with
  | none => some none
  | some ret =>
    if ret.length < 32 then some none
    else (decodeAnswer n ret).map some

/-- The full live check; `none` is a revert. -/
def Storage.isIdentityCurrent (ens : Address → EnsRegistry) (now : Uint256) (s : Storage)
    (agentIdentityHash : Bytes32) (agent : Address) : Option Bool :=
  if s.simulateRegistryOutage then some false
  else
    let b := s.bindings agentIdentityHash
    if ¬ b.exists_ then some false
    else if b.expectedAgent ≠ agent then some false
    else match probe 160 ((ens b.registry).ownerOf b.boundTokenId) with
      | none => none
      | some none => some false
      | some (some currentOwner) =>
        if currentOwner = 0 then some false
        else if currentOwner ≠ b.expectedNameOwner then some false
        else match probe 64 ((ens b.registry).getExpiry b.labelId) with
          | none => none
          | some none => some false
          | some (some expiry) =>
            if toWord expiry ≤ now then some false
            else match probe 256 ((ens b.registry).getTokenId b.labelId) with
              | none => none
              | some none => some false
              | some (some currentTokenId) =>
                if currentTokenId ≠ b.boundTokenId then some false
                else
                  let recomputed := computeIdentityHash b.registry b.labelId currentOwner
                    b.expectedAgent currentTokenId b.bindingVersion
                  some (recomputed = agentIdentityHash)

end EnsAgentIdentityVerifier

/-! ## 4. The verifier an executor is built with -/

/-- The verifier's storage, of either kind. -/
inductive IdentityVerifier where
  | local_ (s : LocalAgentIdentityVerifier.Storage)
  | ens (s : EnsAgentIdentityVerifier.Storage)

/-- `IAgentIdentityVerifier.isIdentityCurrent`; `none` is a revert. -/
def IdentityVerifier.isIdentityCurrent (ens : Address → EnsRegistry) (now : Uint256)
    (v : IdentityVerifier) (agentIdentityHash : Bytes32) (agent : Address) : Option Bool :=
  match v with
  | .local_ s => some (s.isIdentityCurrent agentIdentityHash agent)
  | .ens s => s.isIdentityCurrent ens now agentIdentityHash agent

/-- Calls to the verifier, of either kind. -/
inductive IdentityCall where
  | local_ (o : LocalAgentIdentityVerifier.Call)
  | ens (o : EnsAgentIdentityVerifier.Call)

/-- A call of the wrong kind finds no such function and reverts. -/
def IdentityCall.apply (ens : Address → EnsRegistry) (sender : Address) :
    IdentityVerifier → IdentityCall → Option IdentityVerifier
  | .local_ s, .local_ o => (o.apply sender s).toOption.map .local_
  | .ens s, .ens o => (o.apply ens sender s).toOption.map .ens
  | _, _ => none

end ContextLock
