/-
  Subject:   `Broker.createRequest`, cut at its awaits.

  A call runs on its own from one await to the next; what the awaited party answers starts the
  next part.
-/
import ContextLock.Broker.Database
import ContextLock.Network.Fences

namespace ContextLock.Broker

open Evm Js
open Policy (Verdict)
open Network (fenceWriteByChain ApprovedNetworkReason)

/-! ## 1. Inputs and outcomes -/

structure PublicPolicy where
  policyId : String
  policyHash : Bytes32
  enabled : Bool
  allowedActionKinds : List String
  allowedTargets : List String
  maxValueHardCap : Int
  target : String

structure BrokerConfig where
  chainId : Int
  executor : String
  capabilityTtlSeconds : Js.Num
  policies : List (String × PublicPolicy)

structure CreateRequestInput where
  agentEnsName : String
  actionKind : String
  adapterParams : Json
  policyId : String
  idempotencyKey : String

structure AgentIdentity where
  ensName : String
  node : Bytes32
  agent : String
  bindingVersion : Int
  agentIdentityHash : Bytes32
  source : IdentitySource

structure EvaluationInput where
  requestId : String
  requestHash : Bytes32
  calldata : Bytes
  identity : AgentIdentity
  policyHash : Bytes32
  target : String
  value : Int
  calldataHash : Bytes32
  intentHash : Bytes32
  actionKind : String
  amount : Nat

structure EvaluationResult where
  authorizationId : Bytes32
  requestHash : Bytes32
  verdict : Verdict
  reasonCode : String
  contextCommitment : Bytes32
  evaluatedAt : Int
  approvedUntil : Int
  source : EvaluationSource

/-- The capability the broker signs, with the fields as the broker holds them. -/
structure Capability where
  version : Int
  agentIdentityHash : Bytes32
  agent : String
  chainId : Int
  executor : String
  target : String
  value : Int
  calldataHash : Bytes32
  intentHash : Bytes32
  policyHash : Bytes32
  authorizationId : Bytes32
  contextCommitment : Bytes32
  issuedAt : Int
  expiresAt : Int
  nonce : Int

structure RequestRecord where
  requestId : String
  status : RequestStatus
  reasonCode : String
  capability : Option Capability
  signature : Option String
  calldata : Option Bytes
  actionKindHash : Option Bytes32
  capabilityDigest : Option Bytes32
  authorizationId : Option Bytes32
  approvedUntil : Option String
  identitySource : Option IdentitySource
  evaluationSource : Option EvaluationSource

/-- What a call throws. -/
inductive Failure where
  | policyDenial (code message : String)
  | networkGuard (reason : ApprovedNetworkReason)
  | operational (code : String)
  | other

/-! ## 2. Hashes of a capability -/

/-- An integer as an unsigned word; out of range throws. -/
def uintOf (w : Nat) (n : Int) : Option (BitVec w) :=
  if 0 ≤ n ∧ n < 2 ^ w then some (BitVec.ofNat w n.toNat) else none

def addressOf (s : String) : Option Evm.Address :=
  match hexValue 20 s with
  | none => none
  | some n =>
    let a : Evm.Address := BitVec.ofNat 160 n
    if toLowerCase s = s ∨ getAddress a = s then some a else none

/-- `requestHash` of a capability; a field that does not encode throws. -/
def requestHash (cap : Capability) : Option Bytes32 := do
  let agent ← addressOf cap.agent
  let chainId ← uintOf 256 cap.chainId
  let executor ← addressOf cap.executor
  let target ← addressOf cap.target
  let value ← uintOf 256 cap.value
  return keccak256 (abiEncode (ContextLockTypes.requestWords cap.agentIdentityHash agent chainId
    executor target value cap.calldataHash cap.intentHash cap.policyHash))

/-- The capability in the contract's words. -/
def Capability.typed (cap : Capability) : Option ContextLock.Capability := do
  let version ← uintOf 8 cap.version
  let agent ← addressOf cap.agent
  let chainId ← uintOf 256 cap.chainId
  let executor ← addressOf cap.executor
  let target ← addressOf cap.target
  let value ← uintOf 256 cap.value
  let issuedAt ← uintOf 64 cap.issuedAt
  let expiresAt ← uintOf 64 cap.expiresAt
  let nonce ← uintOf 256 cap.nonce
  return { version := version, agentIdentityHash := cap.agentIdentityHash, agent := agent
           chainId := chainId, executor := executor, target := target, value := value
           calldataHash := cap.calldataHash, intentHash := cap.intentHash
           policyHash := cap.policyHash, authorizationId := cap.authorizationId
           contextCommitment := cap.contextCommitment, issuedAt := issuedAt
           expiresAt := expiresAt, nonce := nonce }

def capabilityDigest (cap : Capability) : Option Bytes32 :=
  cap.typed.map fun c => typedDigest (domainSeparator "ContextLock" c.chainId c.executor)
    (ContextLockTypes.hashStruct c)

/-! ## 3. Reading a request -/

/-- `getRequest`: what the tables say about a request. -/
def DB.getRequest (db : DB) (requestId : String) : Option RequestRecord :=
  (db.request requestId).map fun r =>
    let a := db.authorizationOf requestId
    { requestId := r.id
      status := r.status
      reasonCode := r.reasonCode.getD "PENDING"
      capability := none
      signature := none
      calldata := none
      actionKindHash := none
      capabilityDigest := none
      authorizationId := a.map (·.authorizationId)
      approvedUntil := a.map (·.approvedUntil.text)
      identitySource := r.identitySource
      evaluationSource := a.map (·.source) }

/-! ## 4. Up to the identity provider -/

/-- What a call holds once its row is inserted. -/
structure Prepared where
  requestId : String
  input : CreateRequestInput
  policyHash : Bytes32
  tx : CandidateTransaction
  intentHash : Bytes32
  amount : Nat

/-- Where a call is: at one of its awaits, or over. -/
inductive CallState where
  | resolving (p : Prepared)
  | evaluating (p : Prepared) (identity : AgentIdentity) (input : EvaluationInput)
  | signing (p : Prepared) (identity : AgentIdentity) (evaluation : EvaluationResult)
      (cap : Capability)
  | returned (r : RequestRecord)
  | threw (e : Failure)
  | lost

/-- The policy a request names, if it is enabled. -/
def policyLookup (cfg : BrokerConfig) (policyId : String) : Except Failure PublicPolicy :=
  match lookup cfg.policies policyId with
  | .absent => .error (.policyDenial "CTX_POLICY_DISABLED" ("Unknown policy: " ++ policyId))
  -- an inherited property passes for a policy and has no `enabled`
  | .inherited => .error (.policyDenial "CTX_POLICY_DISABLED" "Policy is disabled")
  | .own policy =>
    if ¬ policy.enabled then .error (.policyDenial "CTX_POLICY_DISABLED" "Policy is disabled")
    else .ok policy

/-- `getAdapter`: the schema of an action kind's adapter. -/
def getAdapter (actionKind : String) :
    Except Failure (Json → Except (List String) MockTransferParams) :=
  match lookup registry actionKind with
  | .absent => .error (.policyDenial "CTX_POLICY_ACTION_DENIED"
      ("Unknown or unsupported actionKind: " ++ actionKind))
  -- an inherited property passes for an adapter and has no schema
  | .inherited => .error .other
  | .own schema => .ok schema

/-- The checks and the adapter, before anything is written. -/
def prepare (cfg : BrokerConfig) (input : CreateRequestInput) (requestId : String) :
    Except Failure Prepared := do
  let policy ← policyLookup cfg input.policyId
  if input.actionKind ∉ policy.allowedActionKinds then
    .error (.policyDenial "CTX_POLICY_ACTION_DENIED"
      ("Action kind not permitted by policy: " ++ input.actionKind))
  else
  let schema ← getAdapter input.actionKind
  let params ← (schema input.adapterParams).mapError fun issues =>
    .policyDenial "CTX_API_VALIDATION" ("Invalid adapter parameters: " ++ "; ".intercalate issues)
  let _ ← (fenceWriteByChain cfg.chainId).mapError .networkGuard
  let tx := params.build ⟨cfg.chainId, policy.target⟩
  if tx.target ∉ policy.allowedTargets then
    .error (.policyDenial "CTX_POLICY_TARGET_DENIED" ("Target not allowlisted: " ++ tx.target))
  else if policy.maxValueHardCap < tx.value then
    .error (.policyDenial "CTX_POLICY_VALUE_EXCEEDS_CAP" "Value exceeds policy hard cap")
  else
  .ok { requestId := requestId, input := input, policyHash := policy.policyHash, tx := tx
        intentHash := keccakText (input.actionKind ++ ":" ++ stringifyTexts tx.semanticSummary)
        amount := params.amount }

theorem prepare_ok {cfg : BrokerConfig} {input : CreateRequestInput} {requestId : String}
    {p : Prepared} (h : prepare cfg input requestId = .ok p) :
    p.requestId = requestId ∧ p.input = input := by
  simp only [prepare, bind_eq_ok, ite_error_eq_ok, Except.ok.injEq] at h
  obtain ⟨_, _, _, _, _, _, _, _, _, _, _, rfl⟩ := h
  exact ⟨rfl, rfl⟩

def Prepared.row (p : Prepared) : RequestRow where
  id := p.requestId
  idempotencyKey := p.input.idempotencyKey
  agentEnsName := p.input.agentEnsName
  agentAddress := ""
  agentIdentityHash := none
  policyHash := p.policyHash
  actionKind := p.input.actionKind
  intentHash := p.intentHash
  target := p.tx.target
  value := p.tx.value
  calldata := p.tx.calldata
  calldataHash := p.tx.calldataHash
  amount := p.amount
  status := .PENDING
  reasonCode := none
  identitySource := none

/-- The record of a row that is there. -/
def DB.replay (db : DB) (requestId : String) : CallState :=
  (db.getRequest requestId).elim (.threw .other) .returned

/-- The first part of `createRequest`; `requestId` is the id drawn for it. -/
def createRequest (cfg : BrokerConfig) (db : DB) (input : CreateRequestInput)
    (requestId : String) : DB × CallState :=
  match db.requestOfKey input.idempotencyKey with
  | some existing =>
    let db := db.audit existing.id .IDEMPOTENT_REPLAY
    (db, db.replay existing.id)
  | none =>
    match prepare cfg input requestId with
    | .error e => (db, .threw e)
    | .ok p =>
      match db.insertRequest p.row with
      | none => (db, .threw .other)
      | some db => (db.audit requestId .REQUEST_RECEIVED, .resolving p)

/-! ## 5. Up to the evaluator -/

/-- The capability whose request hash the evaluator is asked about. -/
def unissued (cfg : BrokerConfig) (p : Prepared) (identity : AgentIdentity) : Capability where
  version := 1
  agentIdentityHash := identity.agentIdentityHash
  agent := identity.agent
  chainId := cfg.chainId
  executor := cfg.executor
  target := p.tx.target
  value := p.tx.value
  calldataHash := p.tx.calldataHash
  intentHash := p.intentHash
  policyHash := p.policyHash
  authorizationId := 0
  contextCommitment := 0
  issuedAt := 0
  expiresAt := 0
  nonce := 0

def Prepared.evaluationInput (p : Prepared) (identity : AgentIdentity) (requestHash : Bytes32) :
    EvaluationInput where
  requestId := p.requestId
  requestHash := requestHash
  calldata := p.tx.calldata
  identity := identity
  policyHash := p.policyHash
  target := p.tx.target
  value := p.tx.value
  calldataHash := p.tx.calldataHash
  intentHash := p.intentHash
  actionKind := p.input.actionKind
  amount := p.amount

/-- A row with the resolved identity written to it. -/
def RequestRow.identified (identity : AgentIdentity) (r : RequestRow) : RequestRow :=
  { r with agentAddress := identity.agent
           agentIdentityHash := some identity.agentIdentityHash
           identitySource := some identity.source }

def identityFailureCode : Failure → String
  | .operational code => code
  | _ => "CTX_IDENTITY_NOT_FOUND"

/-- The part after `await this.ens.resolve(..)`. -/
def identityResolved (cfg : BrokerConfig) (db : DB) (p : Prepared)
    (result : Except Failure AgentIdentity) : DB × CallState :=
  match result with
  | .error e =>
    ((db.audit p.requestId .ENS_IDENTITY_FAILED).setStatus p.requestId .FAILED
      (identityFailureCode e), .threw e)
  | .ok identity =>
    let db := (db.audit p.requestId .ENS_IDENTITY_VALIDATED).updateRequest p.requestId
      (RequestRow.identified identity)
    let db := db.audit p.requestId .EVALUATION_REQUESTED
    match requestHash (unissued cfg p identity) with
    | none => (db, .threw .other)
    | some hash => (db, .evaluating p identity (p.evaluationInput identity hash))

/-! ## 6. Up to the signer -/

/-- The row of an observed authorization. -/
def EvaluationResult.row (evaluation : EvaluationResult) (requestId : String) :
    AuthorizationRow where
  authorizationId := evaluation.authorizationId
  requestId := requestId
  requestHash := evaluation.requestHash
  verdict := evaluation.verdict
  reasonCode := evaluation.reasonCode
  contextCommitment := evaluation.contextCommitment
  evaluatedAt := Js.Num.ofBigInt evaluation.evaluatedAt
  approvedUntil := Js.Num.ofBigInt evaluation.approvedUntil
  source := evaluation.source

/-- The capability of an allowed request. -/
def mint (cfg : BrokerConfig) (p : Prepared) (identity : AgentIdentity)
    (evaluation : EvaluationResult) (issuedAt ttl nonce : Int) : Capability where
  version := 1
  agentIdentityHash := identity.agentIdentityHash
  agent := identity.agent
  chainId := cfg.chainId
  executor := cfg.executor
  target := p.tx.target
  value := p.tx.value
  calldataHash := p.tx.calldataHash
  intentHash := p.intentHash
  policyHash := p.policyHash
  authorizationId := evaluation.authorizationId
  contextCommitment := evaluation.contextCommitment
  issuedAt := issuedAt
  expiresAt := issuedAt + ttl
  nonce := nonce

/-- The part after `await this.evaluator.evaluate(..)`: the tables, the nonce counter and where
    the call is; `issuedMs` and `nonceMs` are the two readings of the clock. -/
def evaluated (cfg : BrokerConfig) (nonceCounter : Nat) (db : DB) (p : Prepared)
    (identity : AgentIdentity) (result : Except Failure EvaluationResult)
    (issuedMs nonceMs : Nat) : DB × Nat × CallState :=
  match result with
  | .error e => (db, nonceCounter, .threw e)
  | .ok evaluation =>
    match db.insertAuthorization (evaluation.row p.requestId) with
    | none => (db, nonceCounter, .threw .other)
    | some db =>
      let db := db.audit p.requestId .AUTHORIZATION_OBSERVED
      match evaluation.verdict with
      | .deny =>
        let db := (db.audit p.requestId .DENIED).setStatus p.requestId .DENIED
          evaluation.reasonCode
        (db, nonceCounter, db.replay p.requestId)
      | .escalate =>
        let db := (db.audit p.requestId .ESCALATION_CREATED).setStatus p.requestId .ESCALATED
          evaluation.reasonCode
        (db, nonceCounter, db.replay p.requestId)
      | .allow =>
        match cfg.capabilityTtlSeconds with
        | .int ttl =>
          let cap := mint cfg p identity evaluation (issuedMs / 1000 : Nat) ttl
            (nonceMs * 1000 + (nonceCounter + 1) : Nat)
          (db, nonceCounter + 1, .signing p identity evaluation cap)
        | _ => (db, nonceCounter, .threw .other)

/-! ## 7. To the end -/

def Capability.row (cap : Capability) (requestId : String) (digest : Bytes32) :
    CapabilityRow where
  digest := digest
  requestId := requestId
  nonce := cap.nonce
  issuedAt := Js.Num.ofBigInt cap.issuedAt
  expiresAt := Js.Num.ofBigInt cap.expiresAt

def allowedRecord (p : Prepared) (identity : AgentIdentity) (evaluation : EvaluationResult)
    (cap : Capability) (signature : String) (digest : Bytes32) : RequestRecord where
  requestId := p.requestId
  status := .ALLOWED
  reasonCode := evaluation.reasonCode
  capability := some cap
  signature := some signature
  calldata := some p.tx.calldata
  actionKindHash := some p.tx.actionKindHash
  capabilityDigest := some digest
  authorizationId := some evaluation.authorizationId
  approvedUntil := some (toString evaluation.approvedUntil)
  identitySource := some identity.source
  evaluationSource := some evaluation.source

/-- The part after `await this.issuer.signTypedData(..)`. -/
def signed (db : DB) (p : Prepared) (identity : AgentIdentity) (evaluation : EvaluationResult)
    (cap : Capability) (result : Except Failure String) : DB × CallState :=
  match result with
  | .error e => (db, .threw e)
  | .ok signature =>
    match capabilityDigest cap with
    | none => (db, .threw .other)
    | some digest =>
      match db.insertCapability (cap.row p.requestId digest) with
      | none => (db, .threw .other)
      | some db =>
        let db := (db.audit p.requestId .CAPABILITY_MINTED).setStatus p.requestId .ALLOWED
          evaluation.reasonCode
        (db, .returned (allowedRecord p identity evaluation cap signature digest))

end ContextLock.Broker
