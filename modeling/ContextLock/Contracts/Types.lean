/-
  Subject:   `ContextLockTypes`: the capability, its EIP-712 struct hash and its request hash.
-/
import ContextLock.Evm.Host

namespace ContextLock

open Evm

/-- The canonical capability. -/
structure Capability where
  version : Uint8
  agentIdentityHash : Bytes32
  agent : Address
  chainId : Uint256
  executor : Address
  target : Address
  value : Uint256
  calldataHash : Bytes32
  intentHash : Bytes32
  policyHash : Bytes32
  authorizationId : Bytes32
  contextCommitment : Bytes32
  issuedAt : Uint64
  expiresAt : Uint64
  nonce : Uint256

namespace ContextLockTypes

def VERSION : Uint8 := 1

def CAPABILITY_TYPE : String :=
  "Capability(uint8 version,bytes32 agentIdentityHash,address agent,uint256 chainId," ++
  "address executor,address target,uint256 value,bytes32 calldataHash,bytes32 intentHash," ++
  "bytes32 policyHash,bytes32 authorizationId,bytes32 contextCommitment,uint64 issuedAt," ++
  "uint64 expiresAt,uint256 nonce)"

def CAPABILITY_TYPEHASH : Bytes32 := keccakText CAPABILITY_TYPE

def REQUEST_TYPE : String :=
  "EvaluationRequest(bytes32 agentIdentityHash,address agent,uint256 chainId,address executor," ++
  "address target,uint256 value,bytes32 calldataHash,bytes32 intentHash,bytes32 policyHash)"

def REQUEST_TYPEHASH : Bytes32 := keccakText REQUEST_TYPE

def capabilityWords (cap : Capability) : List Bytes32 :=
  [CAPABILITY_TYPEHASH, toWord cap.version, cap.agentIdentityHash, toWord cap.agent, cap.chainId,
   toWord cap.executor, toWord cap.target, cap.value, cap.calldataHash, cap.intentHash,
   cap.policyHash, cap.authorizationId, cap.contextCommitment, toWord cap.issuedAt,
   toWord cap.expiresAt, cap.nonce]

def hashStruct (cap : Capability) : Bytes32 := keccak256 (abiEncode (capabilityWords cap))

def requestWords (agentIdentityHash : Bytes32) (agent : Address) (chainId : Uint256)
    (executor target : Address) (value : Uint256) (calldataHash intentHash policyHash : Bytes32) :
    List Bytes32 :=
  [REQUEST_TYPEHASH, agentIdentityHash, toWord agent, chainId, toWord executor, toWord target,
   value, calldataHash, intentHash, policyHash]

def capabilityRequestWords (cap : Capability) : List Bytes32 :=
  requestWords cap.agentIdentityHash cap.agent cap.chainId cap.executor cap.target cap.value
    cap.calldataHash cap.intentHash cap.policyHash

def requestHash (cap : Capability) : Bytes32 :=
  keccak256 (abiEncode (capabilityRequestWords cap))

theorem requestWords_inj {i i' : Bytes32} {a a' : Address} {c c' : Uint256} {x x' t t' : Address}
    {v v' : Uint256} {d d' n n' p p' : Bytes32}
    (h : requestWords i a c x t v d n p = requestWords i' a' c' x' t' v' d' n' p') :
    i = i' ∧ a = a' ∧ c = c' ∧ x = x' ∧ t = t' ∧ v = v' ∧ d = d' ∧ n = n' ∧ p = p' := by
  simp only [requestWords, List.cons.injEq, and_true, true_and] at h
  obtain ⟨hi, ha, hc, hx, ht, hv, hd, hn, hp⟩ := h
  exact ⟨hi, toWord_inj (by decide) ha, hc, toWord_inj (by decide) hx, toWord_inj (by decide) ht,
    hv, hd, hn, hp⟩

end ContextLockTypes

end ContextLock
