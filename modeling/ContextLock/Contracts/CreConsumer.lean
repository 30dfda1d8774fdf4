/-
  Subject:   `ContextLockCreConsumer`: reports of the oracle network become authorizations.

  The consumer checks who calls and the shape of the report, derives the authorization id from
  the report and records the verdict in the authorization registry as the consumer itself. The
  configured `expectedPolicyCommitment` is stored and never compared.
-/
import ContextLock.Contracts.AuthorizationRegistry

namespace ContextLock.CreConsumer

open Evm
open AuthorizationRegistry (Verdict Authorization)

inductive Error where
  | notForwarder (caller : Address)
  | notOwner
  | invalidVerdict (verdict : Uint8)
  | invalidWindow (evaluatedAt validUntil : Uint64)
  | payloadTooShort
  | zeroOwner
  /-- `abi.decode` met a word that does not fit its type. -/
  | malformed
  /-- The authorization registry reverted. -/
  | registry (e : AuthorizationRegistry.Error)

structure Storage where
  owner : Address
  forwarder : Address
  expectedPolicyCommitment : Bytes32

/-- The constructor. A zero `forwarder` is allowed and means "accept no reports". -/
def construct (owner forwarder : Address) : Except Error Storage :=
  if owner = 0 then .error .zeroOwner
  else .ok { owner := owner, forwarder := forwarder, expectedPolicyCommitment := 0 }

/-! ## 1. The report -/

structure Report where
  requestHash : Bytes32
  policyCommitment : Bytes32
  contextCommitment : Bytes32
  verdict : Uint8
  reasonCode : Bytes32
  evaluatedAt : Uint64
  validUntil : Uint64

/-- `abi.decode(report, (bytes32, bytes32, bytes32, uint8, bytes32, uint64, uint64))`. -/
def decodeReport (report : Bytes) : Option Report := do
  let verdict ← narrow 8 (wordAt report (32 * 3))
  let evaluatedAt ← narrow 64 (wordAt report (32 * 5))
  let validUntil ← narrow 64 (wordAt report (32 * 6))
  return { requestHash := wordAt report (32 * 0), policyCommitment := wordAt report (32 * 1),
           contextCommitment := wordAt report (32 * 2), verdict := verdict,
           reasonCode := wordAt report (32 * 4), evaluatedAt := evaluatedAt,
           validUntil := validUntil }

def Report.words (r : Report) : List Bytes32 :=
  [r.requestHash, r.policyCommitment, r.contextCommitment, toWord r.verdict, r.reasonCode,
   toWord r.evaluatedAt, toWord r.validUntil]

def Report.encode (r : Report) : Bytes := abiEncode r.words

@[simp] theorem Report.encode_length (r : Report) : r.encode.length = 224 := by
  simp [Report.encode, Report.words]

theorem decodeReport_encode (r : Report) : decodeReport r.encode = some r := by
  have hw : ∀ (i : Nat) (hi : i < r.words.length), wordAt r.encode (32 * i) = r.words[i] :=
    fun i hi => wordAt_abiEncode hi
  have hl : r.words.length = 7 := rfl
  unfold decodeReport
  rw [hw 0 (by omega), hw 1 (by omega), hw 2 (by omega), hw 3 (by omega), hw 4 (by omega),
    hw 5 (by omega), hw 6 (by omega)]
  simp only [Report.words, List.getElem_cons_zero, List.getElem_cons_succ,
    narrow_toWord (show 8 ≤ 256 by decide), narrow_toWord (show 64 ≤ 256 by decide)]
  rfl

/-! ## 2. The functions -/

section Functions

variable (sender : Address) (s : Storage)

/-- The modifier `onlyOwner`. -/
def onlyOwner (body : Except Error Storage) : Except Error Storage :=
  if sender ≠ s.owner then .error .notOwner else body

def setForwarder (next : Address) : Except Error Storage :=
  onlyOwner sender s (.ok { s with forwarder := next })

def setExpectedPolicyCommitment (next : Bytes32) : Except Error Storage :=
  onlyOwner sender s (.ok { s with expectedPolicyCommitment := next })

def computeAuthorizationId (requestHash policyCommitment : Bytes32) (evaluatedAt : Uint64) :
    Bytes32 :=
  keccak256 (abiEncode [requestHash, policyCommitment, toWord evaluatedAt])

/-- `onReport`, for the consumer at address `this` and the registry it writes to. -/
def onReport (this : Address) (registry : AuthorizationRegistry.Storage) (report : Bytes) :
    Except Error AuthorizationRegistry.Storage :=
  if sender ≠ s.forwarder ∨ s.forwarder = 0 then .error (.notForwarder sender)
  else if report.length < 224 then .error .payloadTooShort
  else match decodeReport report with
    | none => .error .malformed
    | some r =>
      if r.verdict = 0 ∨ r.verdict > 3 then .error (.invalidVerdict r.verdict)
      else if r.validUntil ≤ r.evaluatedAt then .error (.invalidWindow r.evaluatedAt r.validUntil)
      else
        let authorizationId :=
          computeAuthorizationId r.requestHash r.policyCommitment r.evaluatedAt
        match Verdict.ofUint8 r.verdict with
        | none => .error (.invalidVerdict r.verdict)
        | some verdict =>
          (AuthorizationRegistry.recordAuthorization this registry authorizationId r.requestHash
            r.policyCommitment r.contextCommitment r.evaluatedAt r.validUntil verdict).mapError
            .registry

end Functions

/-! ## 3. Calls -/

/-- The contract's external functions that write; `onReport` writes the registry only. -/
inductive Call where
  | setForwarder (next : Address)
  | setExpectedPolicyCommitment (next : Bytes32)
  | onReport (report : Bytes)

/-- A call's effect on the consumer and on the registry. -/
def Call.apply (this sender : Address) (s : Storage) (registry : AuthorizationRegistry.Storage) :
    Call → Except Error (Storage × AuthorizationRegistry.Storage)
  | .setForwarder next => (CreConsumer.setForwarder sender s next).map (·, registry)
  | .setExpectedPolicyCommitment next =>
    (CreConsumer.setExpectedPolicyCommitment sender s next).map (·, registry)
  | .onReport report => (CreConsumer.onReport sender s this registry report).map (s, ·)

section Facts

variable {sender this : Address} {s s' : Storage}
  {registry registry' : AuthorizationRegistry.Storage}

/-- **What an accepted report needs and records**: it came from the forwarder, it decodes, and
    the registry took its verdict under the derived id. -/
theorem onReport_ok {report : Bytes} (h : onReport sender s this registry report = .ok registry') :
    sender = s.forwarder ∧ s.forwarder ≠ 0 ∧ 224 ≤ report.length ∧
      ∃ r verdict, decodeReport report = some r ∧ Verdict.ofUint8 r.verdict = some verdict ∧
        AuthorizationRegistry.recordAuthorization this registry
          (computeAuthorizationId r.requestHash r.policyCommitment r.evaluatedAt) r.requestHash
          r.policyCommitment r.contextCommitment r.evaluatedAt r.validUntil verdict
          = .ok registry' := by
  simp only [onReport, ite_error_eq_ok, not_or, not_not, not_lt] at h
  obtain ⟨⟨hf, hz⟩, hl, h⟩ := h
  refine ⟨hf, hz, hl, ?_⟩
  split at h
  · cases h
  · rename_i r hr
    simp only [ite_error_eq_ok] at h
    obtain ⟨_, _, h⟩ := h
    split at h
    · cases h
    · rename_i v hv
      exact ⟨r, v, hr, hv, mapError_eq_ok.mp h⟩

/-- A well-formed report from the forwarder is accepted where the registry records it. -/
theorem onReport_encode {r : Report} {v : Verdict} (hf : sender = s.forwarder)
    (hz : s.forwarder ≠ 0) (hr : ¬ (r.verdict = 0 ∨ r.verdict > 3))
    (hv : Verdict.ofUint8 r.verdict = some v) (hw : r.evaluatedAt < r.validUntil)
    (hrec : AuthorizationRegistry.recordAuthorization this registry
      (computeAuthorizationId r.requestHash r.policyCommitment r.evaluatedAt) r.requestHash
      r.policyCommitment r.contextCommitment r.evaluatedAt r.validUntil v = .ok registry') :
    onReport sender s this registry r.encode = .ok registry' := by
  simp only [onReport, Report.encode_length, decodeReport_encode, hv, hrec]
  rw [if_neg (not_or.mpr ⟨not_not.mpr hf, hz⟩), if_neg (by omega), if_neg hr,
    if_neg (BitVec.not_le.mpr hw)]
  rfl

/-- **No call to the consumer rewrites an authorization that exists.** -/
theorem apply_keeps {o : Call} (h : o.apply this sender s registry = .ok (s', registry')) :
    AuthorizationRegistry.Keeps registry registry' := by
  cases o with
  | setForwarder next | setExpectedPolicyCommitment next =>
    simp only [Call.apply, map_eq_ok, Prod.mk.injEq] at h
    obtain ⟨_, _, _, rfl⟩ := h
    exact AuthorizationRegistry.Keeps.refl registry
  | onReport report =>
    simp only [Call.apply, map_eq_ok, Prod.mk.injEq] at h
    obtain ⟨t, hr, _, rfl⟩ := h
    obtain ⟨_, _, _, r, v, _, _, hrec⟩ := onReport_ok hr
    exact AuthorizationRegistry.recordAuthorization_keeps hrec

end Facts

end ContextLock.CreConsumer
