/-
  Subject:   The deployment, the chain state, and every call that is not `execute`.

  `Deployment` holds what no transaction changes: the host, addresses and immutables. `World`
  holds the storage of every contract of the repository, the answers of the two pieces of
  foreign code the executor reads (the ENS registries and an ERC-1271 issuer), and two
  observations: the executor's `CapabilityExecuted` events and the calls it made to targets.
-/
import ContextLock.Contracts.PolicyRegistry
import ContextLock.Contracts.ApprovalRegistry
import ContextLock.Contracts.CreConsumer
import ContextLock.Contracts.Gateway
import ContextLock.Contracts.Identity

namespace ContextLock

open Evm

/-! ## 1. The deployment and the state -/

/-- Addresses and immutables. A zero `approvalRegistry` means that there is none. -/
structure Deployment where
  host : Host
  /-- `address(this)` of the executor, its `DOMAIN_SEPARATOR` and its issuer. -/
  executor : Address
  DOMAIN_SEPARATOR : Bytes32
  capabilityIssuer : Address
  approvalRegistry : Address
  policyRegistry : Address
  authorizationRegistry : Address
  identityVerifier : Address
  /-- `DOMAIN_SEPARATOR` of the approval registry. -/
  approvalDomain : Bytes32
  consumer : Address
  gateway : Address
  /-- `_executorBinding` of the gateway. -/
  executorBinding : Address

structure CapabilityExecuted where
  capabilityDigest : Bytes32
  agentIdentityHash : Bytes32
  target : Address
  agent : Address
  value : Uint256
  nonce : Uint256
  authorizationId : Bytes32

structure TargetCall where
  capabilityDigest : Bytes32
  target : Address
  value : Uint256
  callData : Bytes

structure World where
  /-- `block.timestamp`. -/
  now : Uint256
  policy : PolicyRegistry.Storage
  authorization : AuthorizationRegistry.Storage
  approval : ApprovalRegistry.Storage
  consumer : CreConsumer.Storage
  gateway : Gateway.Storage
  identity : IdentityVerifier
  /-- The ENS registries, by address. -/
  ens : Address → EnsRegistry
  /-- The issuer's code: `none` for an account without code, else what `isValidSignature`
      returns (`none` where the call fails). -/
  issuerCode : Option (Bytes32 → Bytes → Option Bytes)
  nonceUsed : Bytes32 → Uint256 → Bool
  /-- `_entered == 1`. -/
  entered : Bool
  events : List CapabilityExecuted
  targetCalls : List TargetCall

/-- Two worlds agree on everything that is the executor's. -/
structure SameExecutor (w w' : World) : Prop where
  nonceUsed : w'.nonceUsed = w.nonceUsed
  entered : w'.entered = w.entered
  events : w'.events = w.events
  targetCalls : w'.targetCalls = w.targetCalls

theorem SameExecutor.refl (w : World) : SameExecutor w w := ⟨rfl, rfl, rfl, rfl⟩

theorem SameExecutor.trans {u v w : World} (h : SameExecutor u v) (h' : SameExecutor v w) :
    SameExecutor u w :=
  ⟨h'.nonceUsed.trans h.nonceUsed, h'.entered.trans h.entered, h'.events.trans h.events,
    h'.targetCalls.trans h.targetCalls⟩

/-! ## 2. Calls -/

/-- A call that writes, to a contract of the repository or to foreign code. -/
inductive Op where
  | policy (o : PolicyRegistry.Call)
  | authorization (o : AuthorizationRegistry.Call)
  | approval (o : ApprovalRegistry.Call)
  | consumer (o : CreConsumer.Call)
  | gateway (a : Gateway.Args)
  | identity (o : IdentityCall)
  /-- Foreign code changes: the ENS registries and the issuer contract answer otherwise. -/
  | foreign (ens : Address → EnsRegistry) (issuerCode : Option (Bytes32 → Bytes → Option Bytes))

structure SystemCall where
  sender : Address
  op : Op

/-- Why a call reverted, by contract. -/
inductive Revert where
  | policy (e : PolicyRegistry.Error)
  | authorization (e : AuthorizationRegistry.Error)
  | approval (e : ApprovalRegistry.Error)
  | consumer (e : CreConsumer.Error)
  | gateway (e : Gateway.Error)
  | identity

def SystemCall.apply (d : Deployment) (c : SystemCall) (w : World) : Except Revert World :=
  match c.op with
  | .policy o => ((o.apply c.sender w.policy).map fun s => { w with policy := s }).mapError .policy
  | .authorization o =>
    ((o.apply c.sender w.authorization).map fun s => { w with authorization := s }).mapError
      .authorization
  | .approval o =>
    -- without a registry there is nothing to call
    if d.approvalRegistry = 0 then .ok w
    else ((o.apply d.host d.approvalDomain w.now c.sender w.approval).map fun s =>
      { w with approval := s }).mapError .approval
  | .consumer o =>
    ((o.apply d.consumer c.sender w.consumer w.authorization).map fun s =>
      { w with consumer := s.1, authorization := s.2 }).mapError .consumer
  | .gateway a =>
    ((Gateway.requestEvaluation d.host d.executorBinding w.now w.gateway a).map fun s =>
      { w with gateway := s.1 }).mapError .gateway
  | .identity o =>
    match o.apply w.ens c.sender w.identity with
    | some v => .ok { w with identity := v }
    | none => .error .identity
  | .foreign ens issuerCode => .ok { w with ens := ens, issuerCode := issuerCode }

/-- Time passes between transactions. -/
inductive Tick : World → World → Prop where
  | mk (w : World) (now : Uint256) (h : w.now ≤ now) : Tick w { w with now := now }

section Facts

variable {d : Deployment} {c : SystemCall} {w w' : World}

/-- **What a call of each kind can do**: it replaces the storage it is about, by the contract's
    own function, and nothing else. -/
theorem apply_cases (h : c.apply d w = .ok w') :
    (∃ o s, c.op = .policy o ∧ o.apply c.sender w.policy = .ok s ∧ w' = { w with policy := s }) ∨
    (∃ o s, c.op = .authorization o ∧ o.apply c.sender w.authorization = .ok s ∧
      w' = { w with authorization := s }) ∨
    (∃ o s, c.op = .approval o ∧
      o.apply d.host d.approvalDomain w.now c.sender w.approval = .ok s ∧
      w' = { w with approval := s }) ∨
    (∃ o s t, c.op = .consumer o ∧
      o.apply d.consumer c.sender w.consumer w.authorization = .ok (s, t) ∧
      w' = { w with consumer := s, authorization := t }) ∨
    (∃ s, w' = { w with gateway := s }) ∨
    (∃ o v, c.op = .identity o ∧ o.apply w.ens c.sender w.identity = some v ∧
      w' = { w with identity := v }) ∨
    (∃ e i, w' = { w with ens := e, issuerCode := i }) ∨
    w' = w := by
  unfold SystemCall.apply at h
  split at h
  · rename_i o ho
    simp only [mapError_eq_ok, map_eq_ok] at h
    obtain ⟨s, hs, rfl⟩ := h
    exact .inl ⟨o, s, ho, hs, rfl⟩
  · rename_i o ho
    simp only [mapError_eq_ok, map_eq_ok] at h
    obtain ⟨s, hs, rfl⟩ := h
    exact .inr (.inl ⟨o, s, ho, hs, rfl⟩)
  · rename_i o ho
    split at h
    · cases h
      exact .inr (.inr (.inr (.inr (.inr (.inr (.inr rfl))))))
    · simp only [mapError_eq_ok, map_eq_ok] at h
      obtain ⟨s, hs, rfl⟩ := h
      exact .inr (.inr (.inl ⟨o, s, ho, hs, rfl⟩))
  · rename_i o ho
    simp only [mapError_eq_ok, map_eq_ok] at h
    obtain ⟨⟨s, t⟩, hs, rfl⟩ := h
    exact .inr (.inr (.inr (.inl ⟨o, s, t, ho, hs, rfl⟩)))
  · simp only [mapError_eq_ok, map_eq_ok] at h
    obtain ⟨s, _, rfl⟩ := h
    exact .inr (.inr (.inr (.inr (.inl ⟨s.1, rfl⟩))))
  · rename_i o ho
    split at h
    · rename_i v hv
      cases h
      exact .inr (.inr (.inr (.inr (.inr (.inl ⟨o, v, ho, hv, rfl⟩)))))
    · cases h
  · cases h
    exact .inr (.inr (.inr (.inr (.inr (.inr (.inl ⟨_, _, rfl⟩))))))

/-- **No such call writes the executor's storage.** -/
theorem apply_executor (h : c.apply d w = .ok w') : SameExecutor w w' := by
  rcases apply_cases h with ⟨_, _, _, _, rfl⟩ | ⟨_, _, _, _, rfl⟩ | ⟨_, _, _, _, rfl⟩ |
    ⟨_, _, _, _, _, rfl⟩ | ⟨_, rfl⟩ | ⟨_, _, _, _, rfl⟩ | ⟨_, _, rfl⟩ | rfl <;>
  exact ⟨rfl, rfl, rfl, rfl⟩

theorem apply_now (h : c.apply d w = .ok w') : w'.now = w.now := by
  rcases apply_cases h with ⟨_, _, _, _, rfl⟩ | ⟨_, _, _, _, rfl⟩ | ⟨_, _, _, _, rfl⟩ |
    ⟨_, _, _, _, _, rfl⟩ | ⟨_, rfl⟩ | ⟨_, _, _, _, rfl⟩ | ⟨_, _, rfl⟩ | rfl <;> rfl

/-- **No call rewrites an authorization that exists**: neither the registry's own functions nor
    a report to the consumer. -/
theorem apply_authorization (h : c.apply d w = .ok w') :
    AuthorizationRegistry.Keeps w.authorization w'.authorization := by
  rcases apply_cases h with ⟨_, _, _, _, rfl⟩ | ⟨_, _, _, hs, rfl⟩ | ⟨_, _, _, _, rfl⟩ |
    ⟨_, _, _, _, hs, rfl⟩ | ⟨_, rfl⟩ | ⟨_, _, _, _, rfl⟩ | ⟨_, _, rfl⟩ | rfl
  case inr.inl => exact AuthorizationRegistry.apply_keeps hs
  case inr.inr.inr.inl => exact CreConsumer.apply_keeps hs
  all_goals exact AuthorizationRegistry.Keeps.refl _

/-- **Every call ages approvals.** -/
theorem apply_approval (h : c.apply d w = .ok w') :
    ApprovalRegistry.Ages w.approval w'.approval := by
  rcases apply_cases h with ⟨_, _, _, _, rfl⟩ | ⟨_, _, _, _, rfl⟩ | ⟨_, _, _, hs, rfl⟩ |
    ⟨_, _, _, _, _, rfl⟩ | ⟨_, rfl⟩ | ⟨_, _, _, _, rfl⟩ | ⟨_, _, rfl⟩ | rfl
  case inr.inr.inl => exact ApprovalRegistry.apply_ages hs
  all_goals exact ApprovalRegistry.Ages.refl _

end Facts

end ContextLock
