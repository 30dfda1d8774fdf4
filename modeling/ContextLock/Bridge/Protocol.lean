/-
  Subject:   The bridge protocol: operations, signed requests, and what a signature covers.

  A request names an operation and carries the digest of its payload. The signature is a keyed
  digest of all its fields; the payload travels beside it.
-/
import ContextLock.Js.Buffer
import ContextLock.Js.Schema
import ContextLock.Js.Stringify

namespace ContextLock.Bridge

open Js Evm

/-! ## 1. The vocabulary -/

def BRIDGE_PROTOCOL_VERSION : String := "contextlock.bridge/v1"

/-- `BRIDGE_REASONS`. -/
inductive BridgeReason where
  | UNKNOWN_OPERATION | OPERATION_NOT_AVAILABLE | NOT_PERMITTED | BAD_SIGNATURE | PAYLOAD_MUTATED
  | REPLAY | EXPIRED | NOT_YET_VALID | WRONG_PROJECT | WRONG_BRIDGE | WRONG_USER | NO_SESSION
  | SESSION_REVOKED | PAIRING_USED | PAIRING_EXPIRED | PAIRING_UNKNOWN | CREDENTIAL_NOT_ALLOWED
  | HOST_NOT_ALLOWED | APPROVAL_REQUIRED | HARDWARE_UNAVAILABLE

structure Refusal where
  reason : BridgeReason
  detail : String

inductive BridgeOperation where
  | simulateWorkflow | status | buildWorkflow | deployWorkflow | workflowLifecycle
  | approveContextLockAction | performProtectedBrokerAction | performApiRequest
  deriving DecidableEq

def BridgeOperation.text : BridgeOperation → String
  | simulateWorkflow => "cre.simulateWorkflow"
  | status => "cre.status"
  | buildWorkflow => "cre.buildWorkflow"
  | deployWorkflow => "cre.deployWorkflow"
  | workflowLifecycle => "cre.workflowLifecycle"
  | approveContextLockAction => "ledger.approveContextLockAction"
  | performProtectedBrokerAction => "ledger.performProtectedBrokerAction"
  | performApiRequest => "credential.performApiRequest"

def BRIDGE_OPERATIONS : List BridgeOperation :=
  [.simulateWorkflow, .status, .buildWorkflow, .deployWorkflow, .workflowLifecycle,
   .approveContextLockAction, .performProtectedBrokerAction, .performApiRequest]

def BridgeOperation.ofText? (s : String) : Option BridgeOperation :=
  BRIDGE_OPERATIONS.find? (·.text = s)

theorem BridgeOperation.text_of_ofText? {s : String} {op : BridgeOperation}
    (h : BridgeOperation.ofText? s = some op) : op.text = s := by
  simpa using List.find?_some h

/-- Operations that do not exist, named so that a request for one is reported. -/
def FORBIDDEN_OPERATIONS : List String :=
  ["getSecret", "credential.get", "credential.reveal", "runShell", "shell.exec", "readEnv",
   "env.read", "dumpCRESession", "cre.exportSession", "getLedgerSeed", "ledger.exportSeed",
   "ledger.getPin", "fs.read", "cre.runCommand", "cre.getApiKey", "cre.readConfig",
   "wallet.getPrivateKey", "wallet.exportKeystore", "docker.runCommand", "docker.socket"]

theorem text_not_forbidden (op : BridgeOperation) : op.text ∉ FORBIDDEN_OPERATIONS := by
  cases op <;> decide

/-! ## 2. Requests -/

structure BridgeRequest where
  protocolVersion : String
  requestId : String
  bridgeId : String
  userId : String
  projectId : String
  operationType : String
  payloadHash : String
  issuedAtMs : Int
  expiresAtMs : Int
  nonce : String

/-- What arrives at the bridge: a request in any shape, a payload and a signature. A payload
    that is absent reads like `null`. -/
structure SignedBridgeRequest where
  request : Json
  payload : Json
  signature : String

/-- `z.literal(BRIDGE_PROTOCOL_VERSION)`. -/
def literalVersion (fields : List (String × Json)) : Except String String :=
  match fields.lookup "protocolVersion" with
  | some (.str s) =>
    if s = BRIDGE_PROTOCOL_VERSION then .ok s
    else .error ("Invalid input: expected \"" ++ BRIDGE_PROTOCOL_VERSION ++ "\"")
  | _ => .error ("Invalid input: expected \"" ++ BRIDGE_PROTOCOL_VERSION ++ "\"")

/-- `BridgeRequestSchema.safeParse`: the request, or every issue in the schema's order. -/
def BridgeRequest.parse (request : Json) : Except (List String) BridgeRequest :=
  match request with
  | .obj fields =>
    let protocolVersion := literalVersion fields
    let requestId := textField fields "requestId" >>= minLength 8
    let bridgeId := textField fields "bridgeId" >>= minLength 8
    let userId := textField fields "userId" >>= minLength 1
    let projectId := textField fields "projectId" >>= minLength 1
    let operationType := textField fields "operationType" >>= minLength 1
    let payloadHash := textField fields "payloadHash" >>= digestText
    let issuedAtMs := positiveInt fields "issuedAtMs"
    let expiresAtMs := positiveInt fields "expiresAtMs"
    let nonce := textField fields "nonce" >>= minLength 16
    match protocolVersion, requestId, bridgeId, userId, projectId, operationType, payloadHash,
      issuedAtMs, expiresAtMs, nonce with
    | .ok v, .ok q, .ok b, .ok u, .ok p, .ok o, .ok h, .ok i, .ok e, .ok n =>
      .ok ⟨v, q, b, u, p, o, h, i, e, n⟩
    | _, _, _, _, _, _, _, _, _, _ =>
      .error (issueOf protocolVersion ++ issueOf requestId ++ issueOf bridgeId ++ issueOf userId
        ++ issueOf projectId ++ issueOf operationType ++ issueOf payloadHash ++ issueOf issuedAtMs
        ++ issueOf expiresAtMs ++ issueOf nonce)
  | other => .error ["Invalid input: expected object, received " ++ Json.typeName (some other)]

/-! ## 3. Signatures -/

/-- `canonical`: the JSON text with the keys of every object sorted. -/
def canonical (value : Json) : String := stringify (sortKeys value)

def payloadHash (payload : Json) : String := "sha256:" ++ sha256Hex (canonical payload)

def signingInput (r : BridgeRequest) : String :=
  canonical (.obj [("protocolVersion", .str r.protocolVersion), ("requestId", .str r.requestId),
    ("bridgeId", .str r.bridgeId), ("userId", .str r.userId), ("projectId", .str r.projectId),
    ("operationType", .str r.operationType), ("payloadHash", .str r.payloadHash),
    ("issuedAtMs", .num (.int r.issuedAtMs)), ("expiresAtMs", .num (.int r.expiresAtMs)),
    ("nonce", .str r.nonce)])

def sign (r : BridgeRequest) (key : Bytes) : String :=
  hexOf (hmacSha256 key (textBytes (signingInput r)))

def verifySignature (r : BridgeRequest) (key : Bytes) (signature : String) : Bool :=
  let expected := bufferFromHex (sign r key)
  let given := bufferFromHex signature
  if given.length ≠ expected.length then false
  else expected = given

/-- The signature spells the keyed digest of the request. -/
def SignedWith (key : Bytes) (r : BridgeRequest) (signature : String) : Prop :=
  bufferFromHex signature = hmacSha256 key (textBytes (signingInput r))

/-- **What verifies was signed with the key.** -/
theorem verifySignature_iff {r : BridgeRequest} {key : Bytes} {signature : String} :
    verifySignature r key signature = true ↔ SignedWith key r signature := by
  unfold verifySignature SignedWith sign
  rw [bufferFromHex_hexOf]
  by_cases h : bufferFromHex signature = hmacSha256 key (textBytes (signingInput r))
  · simp [h]
  · have hne : hmacSha256 key (textBytes (signingInput r)) ≠ bufferFromHex signature :=
      fun heq => h heq.symm
    simp [h, hne]

theorem signedWith_sign (r : BridgeRequest) (key : Bytes) : SignedWith key r (sign r key) :=
  bufferFromHex_hexOf _

end ContextLock.Bridge
