/-
  Subject:   `ContextLockPolicyRegistry`: the public financial authority of an identity.

  Each agent identity has an admin; the admin enables policies, their targets and action
  kinds, sets the hard cap and may bump the identity's binding version. The views are what the
  executor reads at every execution.
-/
import ContextLock.Evm.Host

namespace ContextLock.PolicyRegistry

open Evm

inductive Error where
  | notAdmin
  | zeroAdmin
  /-- Checked arithmetic overflowed (`Panic(0x11)`). -/
  | overflow

structure Policy where
  enabled : Bool
  maxValueHardCap : Uint256

structure Storage where
  policyAdmin : Bytes32 → Address
  policies : Bytes32 → Bytes32 → Policy
  allowedTarget : Bytes32 → Bytes32 → Address → Bool
  allowedAction : Bytes32 → Bytes32 → Bytes32 → Bool
  bindingVersion : Bytes32 → Uint64

def Storage.empty : Storage where
  policyAdmin := fun _ => 0
  policies := fun _ _ => ⟨false, 0⟩
  allowedTarget := fun _ _ _ => false
  allowedAction := fun _ _ _ => false
  bindingVersion := fun _ => 0

/-! ## 1. The functions -/

section Functions

variable (sender : Address) (s : Storage)

/-- The modifier `onlyAdmin`. -/
def onlyAdmin (agentIdentityHash : Bytes32) (body : Except Error Storage) : Except Error Storage :=
  if sender ≠ s.policyAdmin agentIdentityHash then .error .notAdmin else body

def setPolicyAdmin (agentIdentityHash : Bytes32) (admin : Address) : Except Error Storage :=
  if admin = 0 then .error .zeroAdmin
  else
    let current := s.policyAdmin agentIdentityHash
    if current ≠ 0 ∧ sender ≠ current then .error .notAdmin
    else .ok { s with
      policyAdmin := Function.update s.policyAdmin agentIdentityHash admin
      bindingVersion :=
        -- a fresh identity starts at version 1: 0 means "never configured"
        if s.bindingVersion agentIdentityHash = 0
        then Function.update s.bindingVersion agentIdentityHash 1
        else s.bindingVersion }

def setPolicy (agentIdentityHash policyHash : Bytes32) (enabled : Bool) (cap : Uint256) :
    Except Error Storage :=
  onlyAdmin sender s agentIdentityHash
    (.ok { s with policies := update₂ s.policies agentIdentityHash policyHash ⟨enabled, cap⟩ })

def setTargetAllowed (agentIdentityHash policyHash : Bytes32) (target : Address) (allowed : Bool) :
    Except Error Storage :=
  onlyAdmin sender s agentIdentityHash
    (.ok { s with
      allowedTarget := update₂ s.allowedTarget agentIdentityHash policyHash
        (Function.update (s.allowedTarget agentIdentityHash policyHash) target allowed) })

def setActionAllowed (agentIdentityHash policyHash actionKind : Bytes32) (allowed : Bool) :
    Except Error Storage :=
  onlyAdmin sender s agentIdentityHash
    (.ok { s with
      allowedAction := update₂ s.allowedAction agentIdentityHash policyHash
        (Function.update (s.allowedAction agentIdentityHash policyHash) actionKind allowed) })

def bumpBindingVersion (agentIdentityHash : Bytes32) : Except Error Storage :=
  onlyAdmin sender s agentIdentityHash
    (if s.bindingVersion agentIdentityHash = BitVec.allOnes 64 then .error .overflow
     else .ok { s with
       bindingVersion := Function.update s.bindingVersion agentIdentityHash
         (s.bindingVersion agentIdentityHash + 1) })

end Functions

def Storage.isPolicyEnabled (s : Storage) (a p : Bytes32) : Bool := (s.policies a p).enabled

def Storage.isTargetAllowed (s : Storage) (a p : Bytes32) (t : Address) : Bool :=
  s.allowedTarget a p t

def Storage.isActionAllowed (s : Storage) (a p k : Bytes32) : Bool := s.allowedAction a p k

def Storage.maxValueHardCap (s : Storage) (a p : Bytes32) : Uint256 :=
  (s.policies a p).maxValueHardCap

/-! ## 2. Calls -/

/-- The contract's external functions that write. -/
inductive Call where
  | setPolicyAdmin (agentIdentityHash : Bytes32) (admin : Address)
  | setPolicy (agentIdentityHash policyHash : Bytes32) (enabled : Bool) (cap : Uint256)
  | setTargetAllowed (agentIdentityHash policyHash : Bytes32) (target : Address) (allowed : Bool)
  | setActionAllowed (agentIdentityHash policyHash actionKind : Bytes32) (allowed : Bool)
  | bumpBindingVersion (agentIdentityHash : Bytes32)

def Call.apply (sender : Address) (s : Storage) : Call → Except Error Storage
  | .setPolicyAdmin a admin => PolicyRegistry.setPolicyAdmin sender s a admin
  | .setPolicy a p enabled cap => PolicyRegistry.setPolicy sender s a p enabled cap
  | .setTargetAllowed a p t allowed => PolicyRegistry.setTargetAllowed sender s a p t allowed
  | .setActionAllowed a p k allowed => PolicyRegistry.setActionAllowed sender s a p k allowed
  | .bumpBindingVersion a => PolicyRegistry.bumpBindingVersion sender s a

theorem onlyAdmin_ok {sender : Address} {s s' : Storage} {a : Bytes32}
    {body : Except Error Storage} (h : onlyAdmin sender s a body = .ok s') :
    sender = s.policyAdmin a ∧ body = .ok s' := by
  simpa [onlyAdmin] using h

/-- **What a bump changes**: one entry of `bindingVersion`, by one, and nothing any view of the
    executor reads. -/
theorem bumpBindingVersion_ok {sender : Address} {s s' : Storage} {a : Bytes32}
    (h : bumpBindingVersion sender s a = .ok s') :
    sender = s.policyAdmin a ∧
      s' = { s with bindingVersion := Function.update s.bindingVersion a (s.bindingVersion a + 1) } := by
  obtain ⟨hs, hb⟩ := onlyAdmin_ok h
  simp only [ite_error_eq_ok, Except.ok.injEq] at hb
  exact ⟨hs, hb.2.symm⟩

end ContextLock.PolicyRegistry
