/-
  Subject:   `ContextLockApprovalRegistry`: human approvals of ESCALATE capabilities.

  An approval is for one capability digest, signed by the approver of the time it is
  submitted, single-use and expiring by itself. Only the configured executor may consume one.
-/
import Mathlib
import ContextLock.Evm.Host

namespace ContextLock.ApprovalRegistry

open Evm

inductive Error where
  | notOwner
  | notExecutor
  | invalidApprovalSignature
  | approvalExpired (expiresAt : Uint64) (nowTs : Uint256)
  | approvalAlreadyExists (capabilityDigest : Bytes32)
  | approvalAlreadyConsumed (capabilityDigest : Bytes32)
  | approvalNotFound (capabilityDigest : Bytes32)
  | zeroApprover
  | zeroOwner

structure Approval where
  approver : Address
  approvedAt : Uint64
  expiresAt : Uint64
  consumed : Bool
  exists_ : Bool

def Approval.zero : Approval := ⟨0, 0, 0, false, false⟩

structure Storage where
  owner : Address
  approver : Address
  executor : Address
  approvals : Bytes32 → Approval

/-- `approvals[d] = a`. -/
def Storage.write (s : Storage) (d : Bytes32) (a : Approval) : Storage :=
  { s with approvals := Function.update s.approvals d a }

@[simp] theorem Storage.write_self (s : Storage) (d : Bytes32) (a : Approval) :
    (s.write d a).approvals d = a := by
  simp [Storage.write]

@[simp] theorem Storage.write_of_ne (s : Storage) {d d' : Bytes32} (a : Approval) (h : d' ≠ d) :
    (s.write d a).approvals d' = s.approvals d' := by
  simp [Storage.write, h]

@[simp] theorem Storage.write_executor (s : Storage) (d : Bytes32) (a : Approval) :
    (s.write d a).executor = s.executor := rfl

@[simp] theorem Storage.write_approver (s : Storage) (d : Bytes32) (a : Approval) :
    (s.write d a).approver = s.approver := rfl

/-- The constructor; the executor is set later by the owner. -/
def construct (owner approver : Address) : Except Error Storage :=
  if approver = 0 then .error .zeroApprover
  else if owner = 0 then .error .zeroOwner
  else .ok { owner := owner, approver := approver, executor := 0, approvals := fun _ => .zero }

/-! ## 1. The functions -/

section Functions

variable (host : Host) (domain : Bytes32) (now : Uint256) (sender : Address) (s : Storage)

/-- The modifier `onlyOwner`. -/
def onlyOwner (body : Except Error Storage) : Except Error Storage :=
  if sender ≠ s.owner then .error .notOwner else body

def setApprover (next : Address) : Except Error Storage :=
  onlyOwner sender s (if next = 0 then .error .zeroApprover else .ok { s with approver := next })

def setExecutor (next : Address) : Except Error Storage :=
  onlyOwner sender s (.ok { s with executor := next })

def approvalTypehash : Bytes32 :=
  keccakText "ContextLockApproval(bytes32 capabilityDigest,address approver,uint64 expiresAt)"

def approvalDigest (capabilityDigest : Bytes32) (approver : Address) (expiresAt : Uint64) :
    Bytes32 :=
  typedDigest domain
    (keccak256 (abiEncode [approvalTypehash, capabilityDigest, toWord approver, toWord expiresAt]))

def submitApproval (capabilityDigest : Bytes32) (expiresAt : Uint64) (signature : Bytes) :
    Except Error Storage :=
  if toWord expiresAt ≤ now then .error (.approvalExpired expiresAt now)
  else if (s.approvals capabilityDigest).exists_ then
    .error (.approvalAlreadyExists capabilityDigest)
  else if ¬ recoversTo host s.approver
      (approvalDigest domain capabilityDigest s.approver expiresAt) signature then
    .error .invalidApprovalSignature
  else .ok (s.write capabilityDigest
    { approver := s.approver, approvedAt := now.setWidth 64, expiresAt := expiresAt,
      consumed := false, exists_ := true })

/-- The executor's read before it commits to anything. -/
def Storage.isApprovalValid (capabilityDigest : Bytes32) : Bool :=
  let a := s.approvals capabilityDigest
  if ¬ a.exists_ then false
  else if a.consumed then false
  else if now > toWord a.expiresAt then false
  else if a.approver ≠ s.approver then false
  else true

def consumeApproval (capabilityDigest : Bytes32) : Except Error Storage :=
  let a := s.approvals capabilityDigest
  if sender ≠ s.executor then .error .notExecutor
  else if ¬ a.exists_ then .error (.approvalNotFound capabilityDigest)
  else if a.consumed then .error (.approvalAlreadyConsumed capabilityDigest)
  else if now > toWord a.expiresAt then .error (.approvalExpired a.expiresAt now)
  else if a.approver ≠ s.approver then .error .invalidApprovalSignature
  else .ok (s.write capabilityDigest { a with consumed := true })

end Functions

/-! ## 2. Calls -/

/-- The contract's external functions that write. -/
inductive Call where
  | setApprover (next : Address)
  | setExecutor (next : Address)
  | submitApproval (capabilityDigest : Bytes32) (expiresAt : Uint64) (signature : Bytes)
  | consumeApproval (capabilityDigest : Bytes32)
  deriving DecidableEq

def Call.apply (host : Host) (domain : Bytes32) (now : Uint256) (sender : Address) (s : Storage) :
    Call → Except Error Storage
  | .setApprover next => ApprovalRegistry.setApprover sender s next
  | .setExecutor next => ApprovalRegistry.setExecutor sender s next
  | .submitApproval d e sig => ApprovalRegistry.submitApproval host domain now s d e sig
  | .consumeApproval d => ApprovalRegistry.consumeApproval now sender s d

section Facts

variable {host : Host} {domain : Bytes32} {now : Uint256} {sender : Address} {s s' : Storage}

/-- What an approval needs and what it writes: the approver of the moment has signed. -/
theorem submitApproval_ok {d : Bytes32} {e : Uint64} {sig : Bytes}
    (h : submitApproval host domain now s d e sig = .ok s') :
    now < toWord e ∧ (s.approvals d).exists_ = false ∧
      recoversTo host s.approver (approvalDigest domain d s.approver e) sig = true ∧
      s' = s.write d ⟨s.approver, now.setWidth 64, e, false, true⟩ := by
  simp only [submitApproval, ite_error_eq_ok, not_not, Except.ok.injEq] at h
  obtain ⟨ht, hx, hsig, he⟩ := h
  exact ⟨BitVec.not_le.mp ht, Bool.eq_false_iff.mpr hx, hsig, he.symm⟩

def Usable (now : Uint256) (s : Storage) (d : Bytes32) : Prop :=
  (s.approvals d).exists_ = true ∧ (s.approvals d).consumed = false ∧
    now ≤ toWord (s.approvals d).expiresAt ∧ (s.approvals d).approver = s.approver

/-- **The executor's read says that the approval is usable.** -/
theorem isApprovalValid_iff {d : Bytes32} :
    s.isApprovalValid now d = true ↔ Usable now s d := by
  unfold Storage.isApprovalValid Usable
  by_cases hx : (s.approvals d).exists_ <;> by_cases hc : (s.approvals d).consumed <;>
    by_cases ht : now > toWord (s.approvals d).expiresAt <;>
    by_cases ha : (s.approvals d).approver = s.approver <;>
    simp_all [BitVec.not_le, BitVec.not_lt]

theorem consumeApproval_ok {d : Bytes32} :
    consumeApproval now sender s d = .ok s' ↔
      sender = s.executor ∧ Usable now s d ∧
      s' = s.write d { s.approvals d with consumed := true } := by
  simp only [consumeApproval, ite_error_eq_ok, not_not, Except.ok.injEq, Usable, gt_iff_lt,
    BitVec.not_lt, Bool.not_eq_true, Bool.not_eq_false, and_assoc]
  constructor
  · rintro ⟨h1, h2, h3, h4, h5, h6⟩
    exact ⟨h1, h2, h3, h4, h5, h6.symm⟩
  · rintro ⟨h1, h2, h3, h4, h5, h6⟩
    exact ⟨h1, h2, h3, h4, h5, h6.symm⟩

end Facts

/-! ## 3. How approvals age -/

/-- Recorded approvals of `s` are still there in `s'`, at most consumed meanwhile. -/
def Ages (s s' : Storage) : Prop :=
  ∀ d, (s.approvals d).exists_ = true →
    s'.approvals d = s.approvals d ∨ s'.approvals d = { s.approvals d with consumed := true }

theorem Ages.refl (s : Storage) : Ages s s := fun _ _ => .inl rfl

theorem Ages.trans {s t u : Storage} (h : Ages s t) (h' : Ages t u) : Ages s u := by
  intro d hd
  rcases h d hd with e | e
  · rcases h' d (by rw [e]; exact hd) with e' | e'
    · exact .inl (e'.trans e)
    · exact .inr (by rw [e', e])
  · rcases h' d (by rw [e]; exact hd) with e' | e'
    · exact .inr (e'.trans e)
    · exact .inr (by rw [e', e])

theorem Ages.exists_of {s s' : Storage} (h : Ages s s') {d : Bytes32}
    (hd : (s.approvals d).exists_ = true) : (s'.approvals d).exists_ = true := by
  rcases h d hd with e | e <;> rw [e] <;> exact hd

theorem Ages.consumed_of {s s' : Storage} (h : Ages s s') {d : Bytes32}
    (hd : (s.approvals d).exists_ = true) (hc : (s.approvals d).consumed = true) :
    (s'.approvals d).consumed = true := by
  rcases h d hd with e | e <;> rw [e]
  exact hc

section Aging

variable {host : Host} {domain : Bytes32} {now : Uint256} {sender : Address} {s s' : Storage}

theorem submitApproval_keeps {d : Bytes32} {e : Uint64} {sig : Bytes}
    (h : submitApproval host domain now s d e sig = .ok s') (d' : Bytes32)
    (hd : (s.approvals d').exists_ = true) : s'.approvals d' = s.approvals d' := by
  obtain ⟨_, hx, _, rfl⟩ := submitApproval_ok h
  have hne : d' ≠ d := fun hdd => by rw [hdd, hx] at hd; cases hd
  simp [hne]

theorem apply_keeps {o : Call} (ho : ∀ d, o ≠ .consumeApproval d)
    (h : o.apply host domain now sender s = .ok s') (d : Bytes32)
    (hd : (s.approvals d).exists_ = true) : s'.approvals d = s.approvals d := by
  cases o with
  | setApprover next =>
    simp only [Call.apply, setApprover, onlyOwner, ite_error_eq_ok, Except.ok.injEq] at h
    rw [← h.2.2]
  | setExecutor next =>
    simp only [Call.apply, setExecutor, onlyOwner, ite_error_eq_ok, Except.ok.injEq] at h
    rw [← h.2]
  | submitApproval => exact submitApproval_keeps h d hd
  | consumeApproval d' => exact absurd rfl (ho d')

/-- **Every call ages approvals**: a recorded one is kept, or consumed. -/
theorem apply_ages {o : Call} (h : o.apply host domain now sender s = .ok s') : Ages s s' := by
  intro d hd
  by_cases ho : ∃ d', o = .consumeApproval d'
  · obtain ⟨d', rfl⟩ := ho
    obtain ⟨_, _, rfl⟩ := consumeApproval_ok.mp h
    by_cases hdd : d = d'
    · subst hdd
      exact .inr (by simp)
    · exact .inl (by simp [hdd])
  · exact .inl (apply_keeps (fun d' e => ho ⟨d', e⟩) h d hd)

end Aging

end ContextLock.ApprovalRegistry
