/-
  Subject:   `ContextLockGateway`: requests for evaluation and the event the workflow reads.

  The gateway hashes the request with the executor it was built for and records who asked for
  what; anybody may ask, any number of times. The event carries the request's data, the full
  calldata and the action kind, none of which but the hash comes back on chain.
-/
import ContextLock.Contracts.Types

namespace ContextLock.Gateway

open Evm

inductive Error where
  | zeroTarget
  /-- Checked arithmetic overflowed (`Panic(0x11)`). -/
  | overflow

structure Request where
  agentIdentityHash : Bytes32
  agent : Address
  target : Address
  value : Uint256
  calldataHash : Bytes32
  policyId : Bytes32
  policyVersion : Uint64
  firstRequestedAt : Uint64
  lastRequestedAt : Uint64
  requestCount : Uint64
  exists_ : Bool

def Request.zero : Request := ⟨0, 0, 0, 0, 0, 0, 0, 0, 0, 0, false⟩

structure Storage where
  requests : Bytes32 → Request

/-- The arguments of `requestEvaluation`. -/
structure Args where
  agentIdentityHash : Bytes32
  agent : Address
  ensNode : Bytes32
  target : Address
  value : Uint256
  callData : Bytes
  intentHash : Bytes32
  policyId : Bytes32
  policyVersion : Uint64
  actionKind : Bytes32

/-- The event the workflow subscribes to. -/
structure CapabilityRequested where
  requestHash : Bytes32
  agentIdentityHash : Bytes32
  agent : Address
  ensNode : Bytes32
  target : Address
  value : Uint256
  callData : Bytes
  intentHash : Bytes32
  policyId : Bytes32
  policyVersion : Uint64
  actionKind : Bytes32

def construct (executor : Address) : Except Error (Address × Storage) :=
  if executor = 0 then .error .zeroTarget else .ok (executor, ⟨fun _ => .zero⟩)

section Functions

variable (host : Host) (executorBinding : Address) (now : Uint256) (s : Storage)

def requestHashOf (a : Args) : Bytes32 :=
  keccak256 (abiEncode (ContextLockTypes.requestWords a.agentIdentityHash a.agent host.chainid
    executorBinding a.target a.value (keccak256 a.callData) a.intentHash a.policyId))

/-- `requestEvaluation`: the new storage, the request's hash and the event. -/
def requestEvaluation (a : Args) : Except Error (Storage × Bytes32 × CapabilityRequested) :=
  if a.target = 0 then .error .zeroTarget
  else
    let requestHash := requestHashOf host executorBinding a
    let r := s.requests requestHash
    let r :=
      if ¬ r.exists_ then
        { r with
          agentIdentityHash := a.agentIdentityHash, agent := a.agent, target := a.target
          value := a.value, calldataHash := keccak256 a.callData, policyId := a.policyId
          firstRequestedAt := now.setWidth 64, exists_ := true }
      else r
    if r.requestCount = BitVec.allOnes 64 then .error .overflow
    else
      let r :=
        { r with
          policyVersion := a.policyVersion, lastRequestedAt := now.setWidth 64
          requestCount := r.requestCount + 1 }
      .ok (⟨Function.update s.requests requestHash r⟩, requestHash,
        { requestHash, agentIdentityHash := a.agentIdentityHash, agent := a.agent
          ensNode := a.ensNode, target := a.target, value := a.value, callData := a.callData
          intentHash := a.intentHash, policyId := a.policyId, policyVersion := a.policyVersion
          actionKind := a.actionKind })

end Functions

/-- **What an accepted request emits**: its own hash and every argument, unchanged. -/
theorem requestEvaluation_ok {host : Host} {x : Address} {now : Uint256} {s s' : Storage}
    {a : Args} {q : Bytes32} {ev : CapabilityRequested}
    (h : requestEvaluation host x now s a = .ok (s', q, ev)) :
    a.target ≠ 0 ∧ q = requestHashOf host x a ∧ (s'.requests q).exists_ = true ∧
      ev = { requestHash := q, agentIdentityHash := a.agentIdentityHash, agent := a.agent
             ensNode := a.ensNode, target := a.target, value := a.value, callData := a.callData
             intentHash := a.intentHash, policyId := a.policyId, policyVersion := a.policyVersion
             actionKind := a.actionKind } := by
  simp only [requestEvaluation, ite_error_eq_ok, Except.ok.injEq, Prod.mk.injEq] at h
  obtain ⟨ht, _, rfl, rfl, rfl⟩ := h
  refine ⟨ht, rfl, ?_, rfl⟩
  by_cases hx : (s.requests (requestHashOf host x a)).exists_ <;> simp [hx]

end ContextLock.Gateway
