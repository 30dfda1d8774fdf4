/-
  Subject:   `ContextLockExecutor`: the reference monitor.

  `validate` and `validateAuthorization` check in the source's order and revert with the
  source's errors; `execute` locks, validates, uses the nonce, consumes the approval of an
  ESCALATE, calls the target and unlocks. The target is a function on worlds: whatever it does
  before it returns is in its result, and if it fails the error leaves no state behind.
-/
import ContextLock.Contracts.World

namespace ContextLock.Executor

open Evm
open AuthorizationRegistry (Verdict)

inductive Error where
  | unsupportedVersion (got expected : Uint8)
  | chainMismatch (got expected : Uint256)
  | executorMismatch (got expected : Address)
  | capabilityExpired (expiresAt : Uint64) (nowTs : Uint256)
  | issuedInFuture (issuedAt : Uint64) (nowTs : Uint256)
  | invalidTimeWindow
  | nonceUsed (nonce : Uint256)
  | calldataHashMismatch (got expected : Bytes32)
  | valueMismatch (sent expected : Uint256)
  | invalidSignature
  | identityNotCurrent (agentIdentityHash : Bytes32) (agent : Address)
  | policyDisabled (agentIdentityHash policyHash : Bytes32)
  | targetNotAllowed (target : Address)
  | valueExceedsHardCap (value cap : Uint256)
  /-- Declared by the contract; no function raises it. -/
  | bindingVersionChanged (got expected : Uint64)
  | authorizationMissing (authorizationId : Bytes32)
  | authorizationRequestMismatch (got expected : Bytes32)
  | authorizationPolicyMismatch
  | authorizationContextMismatch
  | authorizationNotAllow (verdict : Uint8)
  | humanApprovalRequired (capabilityDigest : Bytes32)
  | humanApprovalUnavailable
  | authorizationStale (approvedUntil : Uint64) (nowTs : Uint256)
  | reentrancy
  | targetCallFailed (returnData : Bytes)
  | zeroTarget
  | zeroIssuer
  /-- Checked arithmetic overflowed (`Panic(0x11)`). -/
  | overflow
  /-- A called contract reverted, or its answer did not decode. -/
  | callReverted
  /-- `consumeApproval` reverted. -/
  | approval (e : ApprovalRegistry.Error)

/-- Tolerance for a capability issued slightly ahead of block time, in seconds. -/
def MAX_CLOCK_SKEW : Uint256 := 60

/-- The longest lifetime of a capability, `1 hours`. -/
def MAX_CAPABILITY_LIFETIME : Uint64 := 3600

/-- What one calls `execute` with. -/
structure Submission where
  msgValue : Uint256
  cap : Capability
  signature : Bytes
  callData : Bytes
  actionKind : Bytes32

/-- The constructor: immutables of an executor at `this`. -/
def construct (host : Host) (this capabilityIssuer : Address) : Except Error (Bytes32 × Address) :=
  if capabilityIssuer = 0 then .error .zeroIssuer
  else .ok (domainSeparator "ContextLock" host.chainid this, capabilityIssuer)

def digest (d : Deployment) (cap : Capability) : Bytes32 :=
  typedDigest d.DOMAIN_SEPARATOR (ContextLockTypes.hashStruct cap)

/-! ## 1. The issuer's signature -/

/-- `IERC1271.isValidSignature.selector`. -/
def magicValue : Bytes4 := 0x1626ba7e

/-- `abi.decode` of a `bytes4`: left-aligned, the other bytes zero. -/
def decodeBytes4 (ret : Bytes) : Option Bytes4 :=
  let w := wordAt ret 0
  if ret.length < 32 then none
  else if w.toNat % 2 ^ 224 ≠ 0 then none
  else some (BitVec.ofNat 32 (w.toNat / 2 ^ 224))

def isValidIssuerSignature (d : Deployment) (w : World) (hash : Bytes32) (signature : Bytes) :
    Except Error Bool :=
  match w.issuerCode with
  | none => .ok (recoversTo d.host d.capabilityIssuer hash signature)
  | some isValidSignature =>
    match isValidSignature hash signature with
    | none => .ok false
    | some ret =>
      match decodeBytes4 ret with
      | none => .error .callReverted
      | some magic => .ok (magic = magicValue)

/-! ## 2. Validation -/

/-- `_validateAuthorization`. -/
def validateAuthorization (d : Deployment) (w : World) (cap : Capability) (capDigest : Bytes32) :
    Except Error Unit :=
  let auth := w.authorization.getAuthorization cap.authorizationId
  if auth.verdict = .none then .error (.authorizationMissing cap.authorizationId)
  else if auth.verdict = .escalate ∧ d.approvalRegistry = 0 then .error .humanApprovalUnavailable
  else if auth.verdict = .escalate ∧ ¬ w.approval.isApprovalValid w.now capDigest then
    .error (.humanApprovalRequired capDigest)
  else if auth.verdict ≠ .escalate ∧ auth.verdict ≠ .allow then
    .error (.authorizationNotAllow auth.verdict.toUint8)
  else if auth.requestHash ≠ ContextLockTypes.requestHash cap then
    .error (.authorizationRequestMismatch auth.requestHash (ContextLockTypes.requestHash cap))
  else if auth.policyHash ≠ cap.policyHash then .error .authorizationPolicyMismatch
  else if auth.contextCommitment ≠ cap.contextCommitment then .error .authorizationContextMismatch
  else if w.now > toWord auth.approvedUntil then
    .error (.authorizationStale auth.approvedUntil w.now)
  else .ok ()

/-- Checks 1 to 5: version, chain and executor, time window, nonce, calldata and value. -/
def validateCall (d : Deployment) (w : World) (x : Submission) : Except Error Unit :=
  let cap := x.cap
  if cap.version ≠ ContextLockTypes.VERSION then
    .error (.unsupportedVersion cap.version ContextLockTypes.VERSION)
  else if cap.chainId ≠ d.host.chainid then .error (.chainMismatch cap.chainId d.host.chainid)
  else if cap.executor ≠ d.executor then .error (.executorMismatch cap.executor d.executor)
  else if cap.target = 0 then .error .zeroTarget
  else if cap.expiresAt ≤ cap.issuedAt then .error .invalidTimeWindow
  else if cap.expiresAt - cap.issuedAt > MAX_CAPABILITY_LIFETIME then .error .invalidTimeWindow
  else if w.now > toWord cap.expiresAt then .error (.capabilityExpired cap.expiresAt w.now)
  else if w.now + MAX_CLOCK_SKEW < w.now then .error .overflow
  else if toWord cap.issuedAt > w.now + MAX_CLOCK_SKEW then
    .error (.issuedInFuture cap.issuedAt w.now)
  else if w.nonceUsed cap.agentIdentityHash cap.nonce then .error (.nonceUsed cap.nonce)
  else if keccak256 x.callData ≠ cap.calldataHash then
    .error (.calldataHashMismatch (keccak256 x.callData) cap.calldataHash)
  else if x.msgValue ≠ cap.value then .error (.valueMismatch x.msgValue cap.value)
  else .ok ()

def validateSignature (d : Deployment) (w : World) (x : Submission) : Except Error Unit := do
  let valid ← isValidIssuerSignature d w (digest d x.cap) x.signature
  if valid then .ok () else .error .invalidSignature

/-- Check 7: the live identity. -/
def validateIdentity (w : World) (cap : Capability) : Except Error Unit :=
  match w.identity.isIdentityCurrent w.ens w.now cap.agentIdentityHash cap.agent with
  | none => .error .callReverted
  | some current =>
    if current then .ok () else .error (.identityNotCurrent cap.agentIdentityHash cap.agent)

/-- Check 8: the live public policy. -/
def validatePolicy (w : World) (cap : Capability) (actionKind : Bytes32) : Except Error Unit :=
  if ¬ w.policy.isPolicyEnabled cap.agentIdentityHash cap.policyHash then
    .error (.policyDisabled cap.agentIdentityHash cap.policyHash)
  else if ¬ w.policy.isTargetAllowed cap.agentIdentityHash cap.policyHash cap.target then
    .error (.targetNotAllowed cap.target)
  else if ¬ w.policy.isActionAllowed cap.agentIdentityHash cap.policyHash actionKind then
    .error (.targetNotAllowed cap.target)
  else if cap.value > w.policy.maxValueHardCap cap.agentIdentityHash cap.policyHash then
    .error (.valueExceedsHardCap cap.value
      (w.policy.maxValueHardCap cap.agentIdentityHash cap.policyHash))
  else .ok ()

/-- `_validate`, which returns the capability's digest. -/
def validate (d : Deployment) (w : World) (x : Submission) : Except Error Bytes32 := do
  validateCall d w x
  validateSignature d w x
  validateIdentity w x.cap
  validatePolicy w x.cap x.actionKind
  -- check 9
  validateAuthorization d w x.cap (digest d x.cap)
  return digest d x.cap

/-! ## 3. Execution -/

/-- The executor locked (`_entered = 1`). -/
def lock (w : World) : World := { w with entered := true }

/-- `nonceUsed[cap.agentIdentityHash][cap.nonce] = true`. -/
def useNonce (cap : Capability) (w : World) : World :=
  { w with nonceUsed := update₂ w.nonceUsed cap.agentIdentityHash cap.nonce true }

/-- Consume the human approval if the verdict is ESCALATE and there is a registry. -/
def consumeIfEscalated (d : Deployment) (cap : Capability) (capDigest : Bytes32) (w : World) :
    Except Error World :=
  if d.approvalRegistry ≠ 0 ∧
      (w.authorization.getAuthorization cap.authorizationId).verdict = .escalate then
    ((ApprovalRegistry.consumeApproval w.now d.executor w.approval capDigest).map fun s =>
      { w with approval := s }).mapError .approval
  else .ok w

/-- The observation that the target is called. -/
def recordCall (x : Submission) (capDigest : Bytes32) (w : World) : World :=
  { w with targetCalls := w.targetCalls ++
      [{ capabilityDigest := capDigest, target := x.cap.target, value := x.cap.value
         callData := x.callData }] }

def executedEvent (capDigest : Bytes32) (cap : Capability) : CapabilityExecuted where
  capabilityDigest := capDigest
  agentIdentityHash := cap.agentIdentityHash
  target := cap.target
  agent := cap.agent
  value := cap.value
  nonce := cap.nonce
  authorizationId := cap.authorizationId

/-- `_emitExecuted` and `_entered = 0`. -/
def finish (cap : Capability) (capDigest : Bytes32) (w : World) : World :=
  { w with events := w.events ++ [executedEvent capDigest cap], entered := false }

/-- `execute`, with the target's code as a function on worlds. -/
def execute (d : Deployment) (x : Submission) (target : World → Except Bytes (World × Bytes))
    (w : World) : Except Error (World × Bytes) :=
  if w.entered then .error .reentrancy
  else do
    let w := lock w
    let capDigest ← validate d w x
    let w ← consumeIfEscalated d x.cap capDigest (useNonce x.cap w)
    match target (recordCall x capDigest w) with
    | .error ret => .error (.targetCallFailed ret)
    | .ok (w, ret) => .ok (finish x.cap capDigest w, ret)

/-! ## 4. What success says -/

section Facts

variable {d : Deployment} {w w' : World} {x : Submission} {cap : Capability} {h : Bytes32}

/-- The authorization a capability names covers it, now, under this digest. -/
structure Authorized (d : Deployment) (w : World) (cap : Capability) (capDigest : Bytes32) :
    Prop where
  verdict : (w.authorization.getAuthorization cap.authorizationId).verdict = .allow ∨
    (w.authorization.getAuthorization cap.authorizationId).verdict = .escalate ∧
      d.approvalRegistry ≠ 0 ∧ ApprovalRegistry.Usable w.now w.approval capDigest
  requestHash : (w.authorization.getAuthorization cap.authorizationId).requestHash =
    ContextLockTypes.requestHash cap
  policyHash : (w.authorization.getAuthorization cap.authorizationId).policyHash = cap.policyHash
  context : (w.authorization.getAuthorization cap.authorizationId).contextCommitment =
    cap.contextCommitment
  fresh : w.now ≤ toWord (w.authorization.getAuthorization cap.authorizationId).approvedUntil

/-- **The authorization check passes exactly where the authorization covers the capability.** -/
theorem validateAuthorization_iff :
    validateAuthorization d w cap h = .ok () ↔ Authorized d w cap h := by
  simp only [validateAuthorization, ite_error_eq_ok, not_and, not_not, gt_iff_lt, BitVec.not_lt,
    and_true, ApprovalRegistry.isApprovalValid_iff]
  constructor
  · rintro ⟨hn, hreg, huse, hv, hr, hp, hc, hf⟩
    refine ⟨?_, hr, hp, hc, hf⟩
    by_cases he : (w.authorization.getAuthorization cap.authorizationId).verdict = .escalate
    · exact .inr ⟨he, hreg he, huse he⟩
    · exact .inl (hv he)
  · rintro ⟨hv, hr, hp, hc, hf⟩
    refine ⟨?_, ?_, ?_, ?_, hr, hp, hc, hf⟩ <;> rcases hv with hv | ⟨hv, hreg, huse⟩ <;>
      simp [hv] <;> assumption

/-- What checks 1 to 5 have checked. -/
structure CallBound (d : Deployment) (w : World) (x : Submission) : Prop where
  version : x.cap.version = ContextLockTypes.VERSION
  chainId : x.cap.chainId = d.host.chainid
  executor : x.cap.executor = d.executor
  target : x.cap.target ≠ 0
  window : x.cap.issuedAt < x.cap.expiresAt
  lifetime : x.cap.expiresAt - x.cap.issuedAt ≤ MAX_CAPABILITY_LIFETIME
  notExpired : w.now ≤ toWord x.cap.expiresAt
  noOverflow : w.now ≤ w.now + MAX_CLOCK_SKEW
  issued : toWord x.cap.issuedAt ≤ w.now + MAX_CLOCK_SKEW
  nonce : w.nonceUsed x.cap.agentIdentityHash x.cap.nonce = false
  callData : keccak256 x.callData = x.cap.calldataHash
  value : x.msgValue = x.cap.value

theorem validateCall_iff : validateCall d w x = .ok () ↔ CallBound d w x := by
  simp only [validateCall, ite_error_eq_ok, not_not, gt_iff_lt, BitVec.not_lt, BitVec.not_le,
    and_true, Bool.not_eq_true]
  constructor
  · rintro ⟨h1, h2, h3, h4, h5, h6, h7, h8, h9, h10, h11, h12⟩
    exact ⟨h1, h2, h3, h4, h5, h6, h7, h8, h9, h10, h11, h12⟩
  · rintro ⟨h1, h2, h3, h4, h5, h6, h7, h8, h9, h10, h11, h12⟩
    exact ⟨h1, h2, h3, h4, h5, h6, h7, h8, h9, h10, h11, h12⟩

/-- What check 8 has checked. -/
structure PolicyAllows (w : World) (cap : Capability) (actionKind : Bytes32) : Prop where
  enabled : w.policy.isPolicyEnabled cap.agentIdentityHash cap.policyHash = true
  target : w.policy.isTargetAllowed cap.agentIdentityHash cap.policyHash cap.target = true
  action : w.policy.isActionAllowed cap.agentIdentityHash cap.policyHash actionKind = true
  value : cap.value ≤ w.policy.maxValueHardCap cap.agentIdentityHash cap.policyHash

theorem validatePolicy_iff {k : Bytes32} :
    validatePolicy w cap k = .ok () ↔ PolicyAllows w cap k := by
  simp only [validatePolicy, ite_error_eq_ok, not_not, gt_iff_lt, BitVec.not_lt, and_true]
  constructor
  · rintro ⟨henabled, htarget, haction, hvalue⟩
    exact ⟨henabled, htarget, haction, hvalue⟩
  · rintro ⟨henabled, htarget, haction, hvalue⟩
    exact ⟨henabled, htarget, haction, hvalue⟩

theorem validateSignature_iff :
    validateSignature d w x = .ok () ↔
      isValidIssuerSignature d w (digest d x.cap) x.signature = .ok true := by
  simp only [validateSignature, bind_eq_ok, ite_else_error_eq_ok, and_true]
  constructor
  · rintro ⟨a, ha, ht⟩
    rw [ha, ht]
  · intro h
    exact ⟨true, h, rfl⟩

theorem validateIdentity_iff :
    validateIdentity w cap = .ok () ↔
      w.identity.isIdentityCurrent w.ens w.now cap.agentIdentityHash cap.agent = some true := by
  unfold validateIdentity
  split
  · rename_i h
    simp [h]
  · rename_i c h
    cases c <;> simp [h]

/-- Everything a successful validation has checked. -/
structure Validated (d : Deployment) (w : World) (x : Submission) : Prop where
  call : CallBound d w x
  signature : isValidIssuerSignature d w (digest d x.cap) x.signature = .ok true
  identity : w.identity.isIdentityCurrent w.ens w.now x.cap.agentIdentityHash x.cap.agent =
    some true
  policy : PolicyAllows w x.cap x.actionKind
  authorization : Authorized d w x.cap (digest d x.cap)

/-- **`_validate` succeeds exactly where everything is checked**, and returns the digest. -/
theorem validate_iff : validate d w x = .ok h ↔ Validated d w x ∧ h = digest d x.cap := by
  simp only [validate, bind_eq_ok]
  constructor
  · rintro ⟨_, h1, _, h2, _, h3, _, h4, _, h5, h6⟩
    exact ⟨⟨validateCall_iff.mp h1, validateSignature_iff.mp h2, validateIdentity_iff.mp h3,
      validatePolicy_iff.mp h4, validateAuthorization_iff.mp h5⟩, (Except.ok.inj h6).symm⟩
  · rintro ⟨⟨h1, h2, h3, h4, h5⟩, rfl⟩
    exact ⟨(), validateCall_iff.mpr h1, (), validateSignature_iff.mpr h2, (),
      validateIdentity_iff.mpr h3, (), validatePolicy_iff.mpr h4, (),
      validateAuthorization_iff.mpr h5, rfl⟩

theorem consumeIfEscalated_ok (hc : consumeIfEscalated d cap h w = .ok w') :
    ∃ s, w' = { w with approval := s } ∧ ApprovalRegistry.Ages w.approval s := by
  unfold consumeIfEscalated at hc
  split at hc
  · simp only [mapError_eq_ok, map_eq_ok] at hc
    obtain ⟨s, hs, rfl⟩ := hc
    have happ : (ApprovalRegistry.Call.consumeApproval h).apply d.host d.approvalDomain w.now
        d.executor w.approval = .ok s := hs
    exact ⟨s, rfl, ApprovalRegistry.apply_ages happ⟩
  · cases hc
    exact ⟨w.approval, rfl, ApprovalRegistry.Ages.refl _⟩

variable {target : World → Except Bytes (World × Bytes)} {ret : Bytes}

/-- The world in which the target of `x` is called, once `w₁` has the approvals consumed. -/
def calling (d : Deployment) (x : Submission) (w₁ : World) : World :=
  recordCall x (digest d x.cap) w₁

/-- **The stages of a successful execution**: it was not entered, it validated, it used the
    nonce, consumed what it had to, and the target returned. -/
theorem execute_iff : execute d x target w = .ok (w', ret) ↔
    w.entered = false ∧ Validated d (lock w) x ∧
      ∃ w₁ w₂, consumeIfEscalated d x.cap (digest d x.cap) (useNonce x.cap (lock w)) = .ok w₁ ∧
        target (calling d x w₁) = .ok (w₂, ret) ∧ w' = finish x.cap (digest d x.cap) w₂ := by
  simp only [execute, ite_error_eq_ok, bind_eq_ok, validate_iff, Bool.not_eq_true]
  constructor
  · rintro ⟨he, _, ⟨hv, rfl⟩, w₁, hc, ht⟩
    refine ⟨he, hv, w₁, ?_⟩
    split at ht
    · cases ht
    · rename_i w₂ r h2
      cases ht
      exact ⟨w₂, hc, h2, rfl⟩
  · rintro ⟨he, hv, w₁, w₂, hc, ht, rfl⟩
    refine ⟨he, _, ⟨hv, rfl⟩, w₁, hc, ?_⟩
    have ht' : target (recordCall x (digest d x.cap) w₁) = .ok (w₂, ret) := ht
    rw [ht']

end Facts

end ContextLock.Executor
