/-
  Subject:   `ContextLockAuthorizationRegistry`: one verdict for one evaluation request.
-/
import ContextLock.Evm.Host

namespace ContextLock.AuthorizationRegistry

open Evm

inductive Error where
  | notAuthorizer
  | notOwner
  | authorizationExists
  | invalidVerdict
  | invalidWindow
  | zeroOwner

/-- The order is the source's: `uint8(ALLOW) = 1`, `uint8(ESCALATE) = 2`, `uint8(DENY) = 3`. -/
inductive Verdict where
  | none
  | allow
  | escalate
  | deny
  deriving DecidableEq

/-- `uint8(verdict)`. -/
def Verdict.toUint8 : Verdict → Uint8
  | .none => 0
  | .allow => 1
  | .escalate => 2
  | .deny => 3

/-- `Verdict(x)`; a value past the last member is no verdict. -/
def Verdict.ofUint8 (x : Uint8) : Option Verdict :=
  if x = 0 then some .none
  else if x = 1 then some .allow
  else if x = 2 then some .escalate
  else if x = 3 then some .deny
  else Option.none

structure Authorization where
  requestHash : Bytes32
  policyHash : Bytes32
  contextCommitment : Bytes32
  evaluatedAt : Uint64
  approvedUntil : Uint64
  verdict : Verdict

structure Storage where
  owner : Address
  authorizer : Address
  authorizations : Bytes32 → Authorization

def Authorization.zero : Authorization := ⟨0, 0, 0, 0, 0, .none⟩

/-- The constructor. A zero `authorizer` is allowed and means "no writer". -/
def construct (owner authorizer : Address) : Except Error Storage :=
  if owner = 0 then .error .zeroOwner
  else .ok { owner := owner, authorizer := authorizer, authorizations := fun _ => .zero }

/-! ## 1. The functions -/

section Functions

variable (sender : Address) (s : Storage)

def setAuthorizer (next : Address) : Except Error Storage :=
  if sender ≠ s.owner then .error .notOwner else .ok { s with authorizer := next }

def recordAuthorization (authorizationId requestHash policyHash contextCommitment : Bytes32)
    (evaluatedAt approvedUntil : Uint64) (verdict : Verdict) : Except Error Storage :=
  if sender ≠ s.authorizer then .error .notAuthorizer
  else if verdict = .none then .error .invalidVerdict
  else if approvedUntil ≤ evaluatedAt then .error .invalidWindow
  else if (s.authorizations authorizationId).verdict ≠ .none then .error .authorizationExists
  else .ok { s with
    authorizations := Function.update s.authorizations authorizationId
      { requestHash, policyHash, contextCommitment, evaluatedAt, approvedUntil, verdict } }

end Functions

def Storage.getAuthorization (s : Storage) (authorizationId : Bytes32) : Authorization :=
  s.authorizations authorizationId

/-! ## 2. Calls -/

/-- The contract's external functions that write. -/
inductive Call where
  | setAuthorizer (next : Address)
  | recordAuthorization (authorizationId requestHash policyHash contextCommitment : Bytes32)
      (evaluatedAt approvedUntil : Uint64) (verdict : Verdict)

def Call.apply (sender : Address) (s : Storage) : Call → Except Error Storage
  | .setAuthorizer next => AuthorizationRegistry.setAuthorizer sender s next
  | .recordAuthorization i r p c e u v =>
    AuthorizationRegistry.recordAuthorization sender s i r p c e u v

theorem recordAuthorization_ok {sender : Address} {s s' : Storage} {i r p c : Bytes32}
    {e u : Uint64} {v : Verdict} (h : recordAuthorization sender s i r p c e u v = .ok s') :
    sender = s.authorizer ∧ v ≠ .none ∧ e < u ∧ (s.authorizations i).verdict = .none ∧
      s' = { s with authorizations := Function.update s.authorizations i ⟨r, p, c, e, u, v⟩ } := by
  simp only [recordAuthorization, ite_error_eq_ok, not_not, Except.ok.injEq] at h
  obtain ⟨hs, hv, hw, hx, he⟩ := h
  exact ⟨hs, hv, BitVec.not_le.mp hw, hx, he.symm⟩

/-- The recorded authorizations of `s` are still there, unchanged, in `s'`. -/
def Keeps (s s' : Storage) : Prop :=
  ∀ i, (s.getAuthorization i).verdict ≠ .none → s'.getAuthorization i = s.getAuthorization i

theorem Keeps.refl (s : Storage) : Keeps s s := fun _ _ => rfl

theorem Keeps.trans {s t u : Storage} (h : Keeps s t) (h' : Keeps t u) : Keeps s u :=
  fun i hi => by rw [h' i (by rw [h i hi]; exact hi), h i hi]

/-- **Authorizations are write-once**: no recording touches one that exists. -/
theorem recordAuthorization_keeps {sender : Address} {s s' : Storage} {i r p c : Bytes32}
    {e u : Uint64} {v : Verdict} (h : recordAuthorization sender s i r p c e u v = .ok s') :
    Keeps s s' := by
  obtain ⟨_, _, _, hx, rfl⟩ := recordAuthorization_ok h
  intro j hj
  have hne : j ≠ i := fun hji => hj (hji ▸ hx)
  simp [Storage.getAuthorization, hne]

/-- **No call rewrites an authorization that exists.** -/
theorem apply_keeps {sender : Address} {s s' : Storage} {o : Call}
    (h : o.apply sender s = .ok s') : Keeps s s' := by
  cases o with
  | setAuthorizer next =>
    simp only [Call.apply, setAuthorizer, ite_error_eq_ok, Except.ok.injEq] at h
    obtain ⟨_, rfl⟩ := h
    exact Keeps.refl s
  | recordAuthorization => exact recordAuthorization_keeps h

end ContextLock.AuthorizationRegistry
