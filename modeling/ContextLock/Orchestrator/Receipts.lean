/-
  Subject:   What the orchestrator asks of the outside, transaction records, reconciliation.

  Every reader, wallet and service is injected: an `Effect` is one call to one of them, and
  `Reply` what it may come back with, an error included. Two loops poll until the clock says
  stop; they are given a number of polls, and past it the script waits for good
  (`Effect.waiting` has no reply).
-/
import ContextLock.Deploy.Approval
import ContextLock.Machine.Script

namespace ContextLock.Orchestrator

open Js Deploy Machine

/-! ## 1. Records -/

inductive SubmissionState where
  | NOT_SUBMITTED
  | SUBMITTED
  | UNKNOWN_SUBMISSION_STATE
  | MINED_SUCCESS
  | MINED_REVERTED
  | CONFIRMED_ABSENT
  deriving DecidableEq

def SubmissionState.text : SubmissionState → String
  | NOT_SUBMITTED => "NOT_SUBMITTED"
  | SUBMITTED => "SUBMITTED"
  | UNKNOWN_SUBMISSION_STATE => "UNKNOWN_SUBMISSION_STATE"
  | MINED_SUCCESS => "MINED_SUCCESS"
  | MINED_REVERTED => "MINED_REVERTED"
  | CONFIRMED_ABSENT => "CONFIRMED_ABSENT"

/-- A record of a write step's transaction; `sender` is the field `from`. -/
structure TransactionRecord where
  deploymentStepId : String
  chainId : Nat
  sender : String
  nonce : Nat
  txHash : Option String
  submittedAtMs : Option Nat
  state : SubmissionState
  blockNumber : Option String
  confirmations : Nat
  contractAddress : Option String
  gasUsed : Option String
  effectiveGasPriceWei : Option String
  actualNativeCostWei : Option String
  estimatedNativeCostWei : Option String
  revertDetail : Option String
  deriving DecidableEq

def newTransactionRecord (deploymentStepId : String) (chainId : Nat) (sender : String)
    (nonce : Nat) (estimatedNativeCostWei : Option String) : TransactionRecord :=
  { deploymentStepId, chainId, sender, nonce, txHash := none, submittedAtMs := none,
    state := .NOT_SUBMITTED, blockNumber := none, confirmations := 0, contractAddress := none,
    gasUsed := none, effectiveGasPriceWei := none, actualNativeCostWei := none,
    estimatedNativeCostWei, revertDetail := none }

def TransactionRecord.hash (r : TransactionRecord) : Option String := truthy r.txHash

def assertSafeToRetry (record : TransactionRecord) : Except DeployError Unit :=
  if record.state = .UNKNOWN_SUBMISSION_STATE then
    .error (.receipt "TX-UNSAFE-RETRY" ("step \"" ++ record.deploymentStepId ++ "\" was sent and"
      ++ " its outcome is unknown. Reconcile it against the chain (by hash"
      ++ (match record.hash with
          | some h => " " ++ h
          | none => ", or by sender+nonce")
      ++ ") before resubmitting; retrying now risks a duplicate deployment."))
  else if record.state = .MINED_SUCCESS then
    .error (.receipt "TX-UNSAFE-RETRY" ("step \"" ++ record.deploymentStepId
      ++ "\" already succeeded in block " ++ record.blockNumber.getD "null"))
  else .ok ()

theorem assertSafeToRetry_ok {record : TransactionRecord} :
    assertSafeToRetry record = .ok () ↔
      record.state ≠ .UNKNOWN_SUBMISSION_STATE ∧ record.state ≠ .MINED_SUCCESS := by
  simp [assertSafeToRetry, Evm.ite_error_eq_ok]

/-! ## 2. Errors of a send -/

/-- The text contains the word, letter case aside. -/
def mentions (word message : String) : Bool :=
  word.toList.map Char.toLower <:+: message.toList.map Char.toLower

/-- The test `/rate.?limit/i`, at the start of a text. -/
def startsWithRateLimit : List Char → Bool
  | 'r' :: 'a' :: 't' :: 'e' :: cs =>
    "limit".toList.isPrefixOf cs ||
      (match cs with
       | c :: cs => c ≠ '\n' && "limit".toList.isPrefixOf cs
       | [] => false)
  | _ => false

def classifyRpcError (err : DeployError) : DeployError :=
  let msg := err.message
  if mentions "429" msg || (msg.toList.map Char.toLower).tails.any startsWithRateLimit
      || mentions "too many requests" msg then .rpc .RATE_LIMITED msg
  else if ["timeout", "timed out", "ETIMEDOUT", "ESOCKETTIMEDOUT", "aborted"].any
      (mentions · msg) then .rpc .TIMEOUT msg
  else if mentions "revert" msg then .rpc .REVERTED msg
  else .rpc .TRANSPORT msg

/-- The error as an `RpcError`. -/
def asRpcError : DeployError → DeployError
  | .rpc kind detail => .rpc kind detail
  | err => classifyRpcError err

/-- `/user rejected|denied|declined/i`: the error reads as a refusal of the user. -/
def readsAsRejection (err : DeployError) : Bool :=
  ["user rejected", "denied", "declined"].any (mentions · err.message)

/-- `recordSendOutcome`: the record after a send that gave a hash, was refused, or failed
    otherwise. -/
def recordSendOutcome (record : TransactionRecord) (outcome : Except DeployError String)
    (definitelyRejected : Bool) (nowMs : Nat) : TransactionRecord :=
  match outcome with
  | .ok txHash =>
    { record with
      txHash := some (toLowerCase txHash), submittedAtMs := some nowMs, state := .SUBMITTED }
  | .error e =>
    if definitelyRejected then
      { record with state := .NOT_SUBMITTED, revertDetail := some (asRpcError e).message }
    else
      { record with
        submittedAtMs := some nowMs, state := .UNKNOWN_SUBMISSION_STATE,
        revertDetail := some (asRpcError e).message }

/-! ## 3. What is asked of the outside -/

inductive ReceiptStatus where
  | success
  | reverted
  deriving DecidableEq

structure Receipt where
  status : ReceiptStatus
  blockNumber : Nat
  gasUsed : Nat
  effectiveGasPrice : Nat
  contractAddress : Option String

/-- The request handed to the wallet; `sender` and `recipient` are the fields `from` and
    `to`. -/
structure SendRequest where
  chainId : Nat
  sender : String
  recipient : Option String
  data : String
  value : Nat
  nonce : Nat
  gas : Nat

/-- What `resolveCalldata` supplies for a write step; `recipient` is the field `to`. -/
structure Prepared where
  recipient : Option String
  data : String
  value : Nat

structure Observation where
  satisfied : Bool
  evidence : String
  createdAddress : Option String

structure CreArtifact where
  wasmPath : String
  wasmSha256 : String
  binaryHash : String
  configHash : String
  workflowHash : String
  sourceTreeHash : String
  configSha256 : String

/-- What `cre.deploy` reports. -/
structure CreDeployed where
  workflowId : String
  registry : String
  status : String
  binaryHash : String

inductive CreAction where
  | get
  | pause
  | activate

/-- The calls the orchestrator makes. The count of an account and a send name the step they
    are made for; the reader and the wallet do not see it. -/
inductive Effect where
  | nowMs
  | sleep (ms : Nat)
  | waiting
  | getTransactionCount (chainId : Nat) (address : String) (stepId : String)
  | getTransactionReceipt (chainId : Nat) (hash : String)
  | getBlockNumber (chainId : Nat)
  | resolveCalldata (step : DeploymentStep) (manifest : DeploymentManifest)
  | sendTransaction (step : DeploymentStep) (req : SendRequest)
  | observe (step : DeploymentStep) (manifest : DeploymentManifest) (created : Map String)
  | creCurrentArtifact
  | creDeploy (workflow wasmPath registry approvedWasmSha256 : String)
  | creLifecycle (workflow : String) (action : CreAction)
  | creAuthValid
  | imageBuild (agentId : String)
  | imageScan (imageDigest : String)
  | imagePublish (imageDigest : String)
  | imageCreateDisabled (agentId imageDigest : String)

/-- What a call comes back with. The clock and a sleep do not fail. -/
@[reducible] def Reply : Effect → Type
  | .nowMs => Nat
  | .sleep _ => Unit
  | .waiting => Empty
  | .getTransactionCount _ _ _ => Except DeployError Nat
  | .getTransactionReceipt _ _ => Except DeployError (Option Receipt)
  | .getBlockNumber _ => Except DeployError Nat
  | .resolveCalldata _ _ => Except DeployError Prepared
  | .sendTransaction _ _ => Except DeployError String
  | .observe _ _ _ => Except DeployError Observation
  | .creCurrentArtifact => Except DeployError (Option CreArtifact)
  | .creDeploy _ _ _ _ => Except DeployError CreDeployed
  | .creLifecycle _ _ => Except DeployError String
  | .creAuthValid => Except DeployError Bool
  | .imageBuild _ => Except DeployError String
  | .imageScan _ => Except DeployError (Bool × String)
  | .imagePublish _ => Except DeployError Unit
  | .imageCreateDisabled _ _ => Except DeployError String

variable {σ : Type}

/-- The actions of the orchestrator's code, over whatever state they keep. -/
abbrev Asks (σ α : Type) := Act σ Effect Reply DeployError α

def nowMs : Asks σ Nat := Act.call Effect.nowMs

def getTransactionCount (chainId : Nat) (address stepId : String) : Asks σ Nat := do
  Act.lift (← Act.call (.getTransactionCount chainId address stepId))

def getTransactionReceipt (chainId : Nat) (hash : String) : Asks σ (Option Receipt) := do
  Act.lift (← Act.call (.getTransactionReceipt chainId hash))

def getBlockNumber (chainId : Nat) : Asks σ Nat := do
  Act.lift (← Act.call (.getBlockNumber chainId))

/-! ## 4. Reconciliation -/

/-- The record a receipt settles, with the head of the chain at that time. -/
def settledBy (record : TransactionRecord) (receipt : Receipt) (head : Nat) : TransactionRecord :=
  { record with
    state := if receipt.status = .success then .MINED_SUCCESS else .MINED_REVERTED
    blockNumber := some (toString receipt.blockNumber)
    confirmations := if receipt.blockNumber ≤ head then head - receipt.blockNumber + 1 else 0
    contractAddress := receipt.contractAddress
    gasUsed := some (toString receipt.gasUsed)
    effectiveGasPriceWei := some (toString receipt.effectiveGasPrice)
    actualNativeCostWei := some (toString (receipt.gasUsed * receipt.effectiveGasPrice))
    revertDetail := if receipt.status = .reverted then
        some ("step \"" ++ record.deploymentStepId ++ "\" reverted in block "
          ++ toString receipt.blockNumber)
      else none }

/-- The record of a transaction without a receipt: still unknown. -/
def stillUnknown (record : TransactionRecord) (hash : String) (nowMs : Nat) : TransactionRecord :=
  { record with
    state := .UNKNOWN_SUBMISSION_STATE
    revertDetail := some ("no receipt for " ++ hash ++ " as of " ++ toISOString nowMs) }

/-- The record of a transaction without a hash, by the next nonce of its account. -/
def settledByNonce (record : TransactionRecord) (next : Nat) : TransactionRecord :=
  if next ≤ record.nonce then
    { record with
      state := .CONFIRMED_ABSENT
      revertDetail := some ("nonce " ++ toString record.nonce ++ " is still unused on "
        ++ record.sender ++ "; nothing was mined") }
  else
    { record with
      state := .UNKNOWN_SUBMISSION_STATE
      revertDetail := some ("nonce " ++ toString record.nonce ++ " has been consumed on "
        ++ record.sender ++ " (account is now at " ++ toString next ++ ") but no transaction hash"
        ++ " is known. A transaction WAS mined from this account; identify it before"
        ++ " resubmitting.") }

/-- `reconcile`, with the reader of `chainId`: by hash where there is one, else by nonce. -/
def reconcile (record : TransactionRecord) (chainId : Nat) (nowMs : Nat) :
    Asks σ TransactionRecord :=
  match record.hash with
  | some hash => do
    match ← getTransactionReceipt chainId hash with
    | some receipt => do
      let head ← getBlockNumber chainId
      pure (settledBy record receipt head)
    | none => pure (stillUnknown record hash nowMs)
  | none => do
    let next ← getTransactionCount chainId record.sender record.deploymentStepId
    pure (settledByNonce record next)

/-- How long and how often to poll. -/
structure Waiting where
  timeoutMs : Nat
  intervalMs : Nat

/-- A record that needs no more polling. -/
def TransactionRecord.settled (r : TransactionRecord) : Bool :=
  r.state = .MINED_SUCCESS ∨ r.state = .MINED_REVERTED ∨ r.state = .CONFIRMED_ABSENT

/-- The loop of `waitForReceipt`, for at most `polls` passes. -/
def pollForReceipt (chainId : Nat) (opts : Waiting) (deadline : Nat) :
    Nat → TransactionRecord → Asks σ TransactionRecord
  | 0, _ => do nomatch ← Act.call .waiting
  | polls + 1, record => do
    let current ← reconcile record chainId (← nowMs)
    if current.settled then pure current
    else if deadline ≤ (← nowMs) then pure current
    else do
      let _ ← Act.call (.sleep opts.intervalMs)
      pollForReceipt chainId opts deadline polls current

def waitForReceipt (record : TransactionRecord) (chainId : Nat) (opts : Waiting) (polls : Nat) :
    Asks σ TransactionRecord := do
  let deadline := (← nowMs) + opts.timeoutMs
  pollForReceipt chainId opts deadline polls record

/-- The loop of `waitForFinality`, for at most `polls` passes. -/
def pollForFinality (chainId confirmations : Nat) (opts : Waiting) (deadline : Nat) :
    Nat → TransactionRecord → Asks σ TransactionRecord
  | 0, _ => do nomatch ← Act.call .waiting
  | polls + 1, record =>
    if record.state = .MINED_SUCCESS ∧ record.confirmations < confirmations then do
      if (← nowMs) < deadline then do
        let _ ← Act.call (.sleep opts.intervalMs)
        let current ← reconcile record chainId (← nowMs)
        pollForFinality chainId confirmations opts deadline polls current
      else pure record
    else pure record

def waitForFinality (record : TransactionRecord) (chainId confirmations : Nat) (opts : Waiting)
    (polls : Nat) : Asks σ TransactionRecord := do
  let deadline := (← nowMs) + opts.timeoutMs
  let current ← waitForReceipt record chainId opts polls
  pollForFinality chainId confirmations opts deadline polls current

def DEFAULT_CONFIRMATIONS : Nat := 2

def assertMinedSuccessfully (record : TransactionRecord) : Except DeployError Unit :=
  if record.state = .MINED_REVERTED then
    .error (.receipt "TX-REVERTED"
      (record.revertDetail.getD ("step \"" ++ record.deploymentStepId ++ "\" reverted")))
  else if record.state ≠ .MINED_SUCCESS then
    .error (.receipt "TX-NOT-FINAL" ("step \"" ++ record.deploymentStepId ++ "\" is "
      ++ record.state.text))
  else .ok ()

end ContextLock.Orchestrator
