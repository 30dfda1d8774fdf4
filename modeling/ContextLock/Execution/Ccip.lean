/-
  Subject:   A cross-chain send: decoded from its calldata, and compared with what was asked for.
-/
import ContextLock.Execution.Action

namespace ContextLock.Execution.Ccip

open Js Evm

/-! ## 1. Router calls -/

/-- `EVMTokenAmount`. -/
structure TokenAmount where
  token : Address
  amount : Uint256

structure EVM2AnyMessage where
  receiver : Bytes
  data : Bytes
  tokenAmounts : List TokenAmount
  feeToken : Address
  extraArgs : Bytes

/-- A call of `CCIP_ROUTER_ABI`. -/
inductive RouterCall where
  | ccipSend (destinationChainSelector : Uint64) (message : EVM2AnyMessage)
  | getFee (destinationChainSelector : Uint64) (message : EVM2AnyMessage)
  | isChainSupported (destChainSelector : Uint64)

def RouterCall.functionName : RouterCall → String
  | ccipSend _ _ => "ccipSend"
  | getFee _ _ => "getFee"
  | isChainSupported _ => "isChainSupported"

/-! ## 2. Deployments -/

structure CcipDeployment where
  chainId : Nat
  chainSelector : String
  router : String
  deriving DecidableEq

/-- In the order of `Object.values`. -/
def CCIP_DEPLOYMENTS : List CcipDeployment :=
  [⟨84532, "10344971235874465080", "0xD3b06cEbF099CE7DA4AcCf578aaebFDBd6e88a93"⟩,
   ⟨11155111, "16015286601757825753", "0x0BF3dE8c5D3e8A2B34D2BEeB17ABfCeBaf363A59"⟩]

def VERIFIED_LANES : List (Nat × Nat) := [(11155111, 84532), (84532, 11155111)]

/-- `ccipDeploymentFor`; `none` where it throws. -/
def ccipDeploymentFor (chainId : Js.Num) : Option CcipDeployment :=
  CCIP_DEPLOYMENTS.find? fun d => Js.Num.int d.chainId = chainId

def chainIdForSelector (selector : String) : Option Nat :=
  (CCIP_DEPLOYMENTS.find? fun d => d.chainSelector = selector).map (·.chainId)

def laneIsVerified (sourceChainId destinationChainId : Js.Num) : Bool :=
  VERIFIED_LANES.any fun l => Js.Num.int l.1 = sourceChainId ∧ Js.Num.int l.2 = destinationChainId

/-! ## 3. Intents -/

inductive CcipActionKind where
  | CROSS_CHAIN_TOKEN_TRANSFER
  | CROSS_CHAIN_MESSAGE
  | PROGRAMMABLE_TRANSFER
  deriving DecidableEq

def CcipActionKind.text : CcipActionKind → String
  | CROSS_CHAIN_TOKEN_TRANSFER => "CROSS_CHAIN_TOKEN_TRANSFER"
  | CROSS_CHAIN_MESSAGE => "CROSS_CHAIN_MESSAGE"
  | PROGRAMMABLE_TRANSFER => "PROGRAMMABLE_TRANSFER"

structure TokenTransfer where
  token : String
  amount : String

structure CcipIntent where
  action : CcipActionKind
  sourceChainId : Js.Num
  destinationChainId : Js.Num
  receiver : String
  tokenTransfers : List TokenTransfer
  data : String
  feeToken : String
  gasLimit : Js.Num
  timeoutMs : Js.Num

structure Summary where
  action : String
  destination : String
  receiver : String
  amount : String

structure CcipPrepared where
  to' : String
  data : String
  value : String
  chainId : Js.Num
  summary : Summary

/-- What a cross-chain send adds to the constraints; `none` where it is not given. -/
structure CcipConstraints extends ExecutionConstraints where
  permittedDestinationChainIds : Option (List Js.Num)
  permittedActions : Option (List CcipActionKind)
  allowedDestinationReceivers : Option (List String)

def CCIP_HIGH_RISK_ACTIONS : List CcipActionKind := [.PROGRAMMABLE_TRANSFER]

def MAINNET_CHAIN_IDS : List Nat := [1, 8453, 42161, 10, 137, 43114, 56]

def problem (code field message : String) : ValidationProblem := ⟨code, .CRITICAL, field, message⟩

def chainProblems (field : String) (id : Js.Num) : List ValidationProblem :=
  flag (id ∈ MAINNET_CHAIN_IDS.map fun n => Js.Num.int n)
    (problem "CCIP-I-MAINNET" field s!"chain {id.text} is mainnet; this build is testnet-only")

def laneProblems (i : CcipIntent) : List ValidationProblem :=
  if Js.Num.strictEq i.sourceChainId i.destinationChainId then
    [problem "CCIP-I-SAME-CHAIN" "destinationChainId" "source and destination are the same chain"]
  else flag (laneIsVerified i.sourceChainId i.destinationChainId = false)
    (problem "CCIP-I-UNVERIFIED-LANE" "destinationChainId"
      s!"lane {i.sourceChainId.text} -> {i.destinationChainId.text} was not verified on chain in this build")

def transferProblems (n : Nat) (t : TokenTransfer) : List ValidationProblem :=
  flag (isAddress t.token = false)
    (problem "CCIP-I-TOKEN" s!"tokenTransfers[{n}].token" "token must be an address") ++
  flag (isDecimal t.amount = false ∨ decimalValue t.amount = 0)
    (problem "CCIP-I-AMOUNT" s!"tokenTransfers[{n}].amount"
      "amount must be a positive integer in base units")

/-- `normalizeIntent`, of an intent whose fields have their types: the problems it has. -/
def normalizeIntent (i : CcipIntent) : List ValidationProblem :=
  chainProblems "sourceChainId" i.sourceChainId ++
  chainProblems "destinationChainId" i.destinationChainId ++
  laneProblems i ++
  flag (isAddress i.receiver = false)
    (problem "CCIP-I-RECEIVER" "receiver" "receiver must be a 20-byte address") ++
  (i.tokenTransfers.zipIdx.flatMap fun t => transferProblems t.2 t.1) ++
  flag (i.action = .CROSS_CHAIN_TOKEN_TRANSFER ∧ i.data ≠ "0x")
    (problem "CCIP-I-UNEXPECTED-DATA" "data"
      ("a plain token transfer must not carry a payload; " ++
        "use PROGRAMMABLE_TRANSFER and declare it")) ++
  flag (¬ Js.Num.lt (.int 0) i.timeoutMs ∧ i.timeoutMs ≠ .nan)
    (problem "CCIP-I-TIMEOUT" "timeoutMs" "a cross-chain step must state a timeout")

/-! ## 4. Decoding -/

def receiverHex (receiver : Bytes) : String :=
  let text := bytesText receiver
  if 66 ≤ text.length then "0x" ++ String.ofList (text.toList.drop (text.length - 40)) else text

/-- The receiver, checksummed where it is an address. -/
def recipientOf (receiver : Bytes) : String :=
  match addressOf (receiverHex receiver) with
  | some a => getAddress a
  | none => receiverHex receiver

def actionOf (message : EVM2AnyMessage) : CcipActionKind :=
  if bytesText message.data = "0x" then .CROSS_CHAIN_TOKEN_TRANSFER else .PROGRAMMABLE_TRANSFER

def metadataOf (prepared : CcipPrepared) (selector : Uint64) (message : EVM2AnyMessage) :
    List (String × Json) :=
  let s := prepared.summary
  [("function", .str "ccipSend"),
   ("summary", .obj [("action", .str s.action), ("destination", .str s.destination),
     ("receiver", .str s.receiver), ("amount", .str s.amount)]),
   ("destinationChainSelector", .str (toString selector.toNat)),
   ("destinationChainId",
     .str (((chainIdForSelector (toString selector.toNat)).map toString).getD "UNKNOWN")),
   ("payloadBytes", .str (toString message.data.length)),
   ("feeToken", .str (getAddress message.feeToken))]

def outputOf (message : EVM2AnyMessage) (t : TokenAmount) : AssetFlow where
  token := getAddress t.token
  amount := toString t.amount.toNat
  from' := none
  to' := some (recipientOf message.receiver)

/-- The action a send is decoded to. -/
def normalized (prepared : CcipPrepared) (target : String) (selector : Uint64)
    (message : EVM2AnyMessage) : NormalizedAction where
  chainId := prepared.chainId
  target := target
  calldata := prepared.data
  value := prepared.value
  actionType := (actionOf message).text
  inputs := []
  outputs := message.tokenAmounts.map (outputOf message)
  recipient := some (recipientOf message.receiver)
  spender := none
  allowanceChanges := []
  minOutputs := []
  deadline := none
  providerMetadata := metadataOf prepared selector message

/-- `decodeTransaction`, over what viem decodes calldata to. -/
def decodeTransaction (decodeFunctionData : String → Except String RouterCall)
    (prepared : CcipPrepared) : Except Thrown NormalizedAction :=
  match decodeFunctionData prepared.data with
  | .error reason => .error (.adapter "CCIP-NOT-ROUTER-CALL"
      s!"calldata is not a CCIP Router call: {reason}")
  | .ok (.ccipSend selector message) =>
    (checksummed prepared.to').map fun target => normalized prepared target selector message
  | .ok call => .error (.adapter "CCIP-UNSUPPORTED-FUNCTION"
      ("Router function \"" ++ call.functionName ++ "\" is not decoded by this adapter"))

/-! ## 5. Validating -/

def metaShown (n : NormalizedAction) (key : String) : String := (metaText n key).getD "undefined"

/-- `Number(s)` of a chain id as `decodeTransaction` writes it. -/
def numberOf (s : String) : Js.Num :=
  if isDecimal s then Js.Num.ofBigInt (decimalValue s) else .nan

def permitted (c : CcipConstraints) : List CcipActionKind :=
  c.permittedActions.getD [.CROSS_CHAIN_TOKEN_TRANSFER]

def permittedShown (c : CcipConstraints) : String :=
  let shown := ", ".intercalate ((permitted c).map CcipActionKind.text)
  if shown = "" then "none" else shown

def receiversAllowed (c : CcipConstraints) : List String := c.allowedDestinationReceivers.getD []

def routerProblems (n : NormalizedAction) (c : CcipConstraints) : List ValidationProblem :=
  match ccipDeploymentFor c.chainId with
  | none => [problem "CCIP-V-NO-DEPLOYMENT" "target"
      s!"chain {c.chainId.text} has no verified CCIP deployment"]
  | some d => flag (¬ sameText n.target d.router)
      (problem "CCIP-V-ROUTER" "target" (s!"target {n.target} is not the verified CCIP Router " ++
        s!"{toLowerCase d.router} for chain {c.chainId.text}"))

def actionProblems (n : NormalizedAction) (intent : CcipIntent) (c : CcipConstraints) :
    List ValidationProblem :=
  flag (n.actionType ∉ (permitted c).map CcipActionKind.text)
    (problem "CCIP-V-ACTION-NOT-PERMITTED" "actionType"
      (s!"decoded action {n.actionType} is not permitted by the Blueprint " ++
        s!"(permitted: {permittedShown c})")) ++
  flag (n.actionType ≠ intent.action.text)
    (problem "CCIP-V-ACTION-MISMATCH" "actionType"
      s!"decoded {n.actionType} but the intent asked for {intent.action.text}")

def selectorProblems (n : NormalizedAction) (intent : CcipIntent) : List ValidationProblem :=
  match ccipDeploymentFor intent.destinationChainId with
  | none => [problem "CCIP-V-UNKNOWN-DESTINATION" "destinationChainSelector"
      s!"no verified deployment for destination chain {intent.destinationChainId.text}"]
  | some d => flag (metaText n "destinationChainSelector" ≠ some d.chainSelector)
      (problem "CCIP-V-DESTINATION" "destinationChainSelector"
        ("decoded selector " ++ metaShown n "destinationChainSelector" ++
          s!" is not {d.chainSelector} (chain {intent.destinationChainId.text})"))

def destinationProblems (n : NormalizedAction) (c : CcipConstraints) : List ValidationProblem :=
  if metaText n "destinationChainId" = some "UNKNOWN" then
    [problem "CCIP-V-UNKNOWN-SELECTOR" "destinationChainSelector"
      ("decoded selector " ++ metaShown n "destinationChainSelector" ++
        " matches no chain this build has verified")]
  else flag (∃ ids ∈ c.permittedDestinationChainIds,
      numberOf (metaShown n "destinationChainId") ∉ ids)
    (problem "CCIP-V-DESTINATION-NOT-PERMITTED" "destinationChainId"
      ("destination chain " ++ metaShown n "destinationChainId" ++
        " is not permitted by the Blueprint"))

def receiverProblems (n : NormalizedAction) (intent : CcipIntent) (c : CcipConstraints) :
    List ValidationProblem :=
  let receiver := n.recipient.getD ""
  flag (receiversAllowed c ≠ [] ∧ ¬ listedIn (receiversAllowed c) receiver)
    (problem "CCIP-V-RECEIVER-NOT-ALLOWED" "receiver"
      s!"decoded receiver {receiver} is not in the Blueprint's destination allow-list") ++
  flag (¬ sameText receiver intent.receiver)
    (problem "CCIP-V-RECEIVER" "receiver"
      s!"decoded receiver {receiver} does not match the intended {intent.receiver}")

/-- One output against the transfer that was asked for in its place. -/
def outputProblems (i : Nat) (out : AssetFlow) (want : TokenTransfer) : List ValidationProblem :=
  flag (¬ sameText out.token want.token)
    (problem "CCIP-V-TOKEN" s!"tokenAmounts[{i}].token"
      s!"decoded token {out.token} does not match the intended {want.token}") ++
  flag (out.amount ≠ want.amount)
    (problem "CCIP-V-AMOUNT" s!"tokenAmounts[{i}].amount"
      s!"decoded amount {out.amount} does not match the intended {want.amount}")

def tokenProblems (n : NormalizedAction) (intent : CcipIntent) : List ValidationProblem :=
  if n.outputs.length ≠ intent.tokenTransfers.length then
    [problem "CCIP-V-TRANSFER-COUNT" "tokenAmounts"
      (s!"decoded {n.outputs.length} transfer(s), " ++
        s!"intent declared {intent.tokenTransfers.length}")]
  else (n.outputs.zip intent.tokenTransfers).zipIdx.flatMap fun t =>
    outputProblems t.2 t.1.1 t.1.2

/-- `validateTransaction`: the problems it reports. -/
def validateTransaction (n : NormalizedAction) (intent : CcipIntent) (c : CcipConstraints) :
    List ValidationProblem :=
  flag (Js.Num.strictEq n.chainId c.chainId = false)
    (problem "CCIP-V-CHAIN" "chainId"
      s!"transaction is for chain {n.chainId.text}, constraints are for {c.chainId.text}") ++
  routerProblems n c ++ actionProblems n intent c ++ selectorProblems n intent ++
  destinationProblems n c ++ receiverProblems n intent c ++ tokenProblems n intent ++
  flag (n.actionType ∈ CCIP_HIGH_RISK_ACTIONS.map CcipActionKind.text ∧
      n.actionType ∉ (permitted c).map CcipActionKind.text)
    (problem "CCIP-V-PROGRAMMABLE-FORBIDDEN" "data"
      ("the message carries a payload the destination would act on, " ++
        "and programmable transfers are not permitted"))

/-! ## 6. What is decoded, what is compared -/

/-- The adapter decodes the transaction and reports no problem. -/
def Accepted (decodeFunctionData : String → Except String RouterCall) (prepared : CcipPrepared)
    (intent : CcipIntent) (c : CcipConstraints) : Prop :=
  ∃ n, decodeTransaction decodeFunctionData prepared = .ok n ∧ validateTransaction n intent c = []

section

variable {decodeFunctionData : String → Except String RouterCall} {prepared : CcipPrepared}
  {intent : CcipIntent} {c : CcipConstraints} {selector : Uint64} {message : EVM2AnyMessage}

/-- **Only a send is decoded**, and from its arguments. -/
theorem decodeTransaction_eq_ok {n : NormalizedAction} :
    decodeTransaction decodeFunctionData prepared = .ok n ↔
      ∃ selector message target,
        decodeFunctionData prepared.data = .ok (.ccipSend selector message) ∧
        checksummed prepared.to' = .ok target ∧
        n = normalized prepared target selector message := by
  unfold decodeTransaction
  cases decodeFunctionData prepared.data with
  | error reason => simp
  | ok call =>
    cases call with
    | ccipSend selector message =>
      cases checksummed prepared.to' with
      | error thrown => simp [Except.map]
      | ok target => simp [Except.map, eq_comm]
    | getFee selector message => simp
    | isChainSupported selector => simp

theorem metaText_selector {target : String} :
    metaText (normalized prepared target selector message) "destinationChainSelector" =
      some (toString selector.toNat) := rfl

def Transfers (t : TokenAmount) (want : TokenTransfer) : Prop :=
  Names want.token t.token ∧ want.amount = toString t.amount.toNat

theorem outputProblems_eq_nil {i : Nat} {t : TokenAmount} {want : TokenTransfer} :
    outputProblems i (outputOf message t) want = [] ↔ Transfers t want := by
  unfold outputProblems Transfers
  rw [List.append_eq_nil_iff, flag_eq_nil, flag_eq_nil, not_not, not_not]
  exact and_congr sameText_getAddress eq_comm

/-- **The outputs are compared one by one with the transfers.** -/
theorem tokenProblems_eq_nil {target : String} :
    tokenProblems (normalized prepared target selector message) intent = [] ↔
      List.Forall₂ Transfers message.tokenAmounts intent.tokenTransfers := by
  unfold tokenProblems normalized
  rw [List.forall₂_iff_zip, List.length_map]
  split
  · rename_i hne
    simp [hne]
  · rename_i heq
    rw [not_not] at heq
    rw [List.flatMap_eq_nil_iff]
    constructor
    · intro hall
      refine ⟨heq, fun {t want} hmem => ?_⟩
      have hmem' : (outputOf message t, want) ∈
          (message.tokenAmounts.map (outputOf message)).zip intent.tokenTransfers := by
        rw [List.zip_map_left]
        exact List.mem_map.mpr ⟨(t, want), hmem, rfl⟩
      obtain ⟨k, hk⟩ := List.mem_iff_getElem?.mp hmem'
      have hidx := hall ((outputOf message t, want), k) (List.mem_zipIdx_iff_getElem?.mpr hk)
      exact outputProblems_eq_nil.mp hidx
    · rintro ⟨-, hall⟩ ⟨⟨out, want⟩, k⟩ hmem
      have hk := List.mem_of_getElem? (List.mem_zipIdx_iff_getElem?.mp hmem)
      rw [List.zip_map_left] at hk
      obtain ⟨⟨t, w⟩, htw, heq'⟩ := List.mem_map.mp hk
      obtain ⟨rfl, rfl⟩ := Prod.mk.inj heq'
      exact outputProblems_eq_nil.mpr (hall htw)

theorem text_inj {a b : CcipActionKind} (h : a.text = b.text) : a = b := by
  have hall : ∀ a b : CcipActionKind, a.text = b.text → a = b := by
    intro a b
    cases a <;> cases b <;> decide
  exact hall a b h

theorem text_mem {a : CcipActionKind} {actions : List CcipActionKind} :
    a.text ∈ actions.map CcipActionKind.text ↔ a ∈ actions :=
  List.mem_map_of_injective fun _ _ => text_inj

def DestinationPermitted (selector : Uint64) (c : CcipConstraints) : Prop :=
  ∃ id, chainIdForSelector (toString selector.toNat) = some id ∧
    ∀ ids ∈ c.permittedDestinationChainIds, numberOf (toString id) ∈ ids

theorem toString_ne_unknown (n : Nat) : toString n ≠ "UNKNOWN" := by
  intro h
  have hdecimal := isDecimal_toString n
  rw [h] at hdecimal
  exact absurd hdecimal (by decide)

theorem destinationProblems_eq_nil {target : String} :
    destinationProblems (normalized prepared target selector message) c = [] ↔
      DestinationPermitted selector c := by
  unfold destinationProblems DestinationPermitted
  have hmeta : metaText (normalized prepared target selector message) "destinationChainId" =
      some (((chainIdForSelector (toString selector.toNat)).map toString).getD "UNKNOWN") := rfl
  unfold metaShown
  rw [hmeta]
  cases chainIdForSelector (toString selector.toNat) with
  | none => simp
  | some id =>
    have hne : id.repr ≠ "UNKNOWN" := toString_ne_unknown id
    simp [hne]

theorem routerProblems_eq_nil {a : Address} :
    routerProblems (normalized prepared (getAddress a) selector message) c = [] ↔
      ∃ d, ccipDeploymentFor c.chainId = some d ∧ Names d.router a := by
  unfold routerProblems
  cases ccipDeploymentFor c.chainId with
  | none => simp
  | some d =>
    simp only [flag_eq_nil, not_not, Option.some.injEq, exists_eq_left']
    exact sameText_getAddress

theorem selectorProblems_eq_nil {target : String} :
    selectorProblems (normalized prepared target selector message) intent = [] ↔
      ∃ d, ccipDeploymentFor intent.destinationChainId = some d ∧
        d.chainSelector = toString selector.toNat := by
  unfold selectorProblems
  cases ccipDeploymentFor intent.destinationChainId with
  | none => simp
  | some d =>
    simp only [flag_eq_nil, metaText_selector, ne_eq, not_not, Option.some.injEq, exists_eq_left']
    exact eq_comm

/-- What an accepted send has been compared with. -/
structure Compared (prepared : CcipPrepared) (target : Address) (selector : Uint64)
    (message : EVM2AnyMessage) (intent : CcipIntent) (c : CcipConstraints) : Prop where
  chain : Js.Num.strictEq prepared.chainId c.chainId = true
  router : ∃ d, ccipDeploymentFor c.chainId = some d ∧ Names d.router target
  permitted : actionOf message ∈ permitted c
  action : actionOf message = intent.action
  destination : ∃ d, ccipDeploymentFor intent.destinationChainId = some d ∧
    d.chainSelector = toString selector.toNat
  destinationPermitted : DestinationPermitted selector c
  allowed : receiversAllowed c ≠ [] → listedIn (receiversAllowed c) (recipientOf message.receiver)
  receiver : sameText (recipientOf message.receiver) intent.receiver
  tokens : List.Forall₂ Transfers message.tokenAmounts intent.tokenTransfers

/-- **The comparisons of `validateTransaction`**, all of them. -/
theorem validateTransaction_eq_nil {a : Address} :
    validateTransaction (normalized prepared (getAddress a) selector message) intent c = [] ↔
      Compared prepared a selector message intent c := by
  have htype : (normalized prepared (getAddress a) selector message).actionType =
      (actionOf message).text := rfl
  have hchainId : (normalized prepared (getAddress a) selector message).chainId =
      prepared.chainId := rfl
  have hrecipient : (normalized prepared (getAddress a) selector message).recipient.getD "" =
      recipientOf message.receiver := rfl
  simp only [validateTransaction, actionProblems, receiverProblems, List.append_eq_nil_iff,
    flag_eq_nil, routerProblems_eq_nil, selectorProblems_eq_nil, destinationProblems_eq_nil,
    tokenProblems_eq_nil, htype, hchainId, hrecipient, text_mem]
  constructor
  · intro h
    obtain ⟨⟨⟨⟨⟨⟨⟨hchain, hrouter⟩, hpermitted, haction⟩, hselector⟩, hdestination⟩,
      hallowed, hreceiver⟩, htokens⟩, -⟩ := h
    exact ⟨by simpa using hchain, hrouter, not_not.mp hpermitted, text_inj (not_not.mp haction),
      hselector, hdestination, fun hne => not_not.mp fun hnot => hallowed ⟨hne, hnot⟩,
      not_not.mp hreceiver, htokens⟩
  · intro h
    have haction : (actionOf message).text = intent.action.text := congrArg _ h.action
    refine ⟨⟨⟨⟨⟨⟨⟨?_, h.router⟩, not_not.mpr h.permitted, not_not.mpr haction⟩, h.destination⟩,
      h.destinationPermitted⟩, fun hne => hne.2 (h.allowed hne.1), not_not.mpr h.receiver⟩,
      h.tokens⟩, fun hrisk => hrisk.2 h.permitted⟩
    rw [h.chain]
    decide

/-- **What is accepted, and nothing else**: a send that agrees in all that is compared. -/
theorem accepted_iff : Accepted decodeFunctionData prepared intent c ↔
    ∃ selector message a, decodeFunctionData prepared.data = .ok (.ccipSend selector message) ∧
      addressOf prepared.to' = some a ∧ Compared prepared a selector message intent c := by
  constructor
  · intro h
    obtain ⟨n, hn, hvalid⟩ := h
    obtain ⟨selector, message, target, hcall, htarget, rfl⟩ := decodeTransaction_eq_ok.mp hn
    obtain ⟨a, ha, rfl⟩ := checksummed_eq_ok.mp htarget
    exact ⟨selector, message, a, hcall, ha, validateTransaction_eq_nil.mp hvalid⟩
  · intro h
    obtain ⟨selector, message, a, hcall, ha, hcompared⟩ := h
    have htarget := checksummed_eq_ok.mpr ⟨a, ha, rfl⟩
    exact ⟨_, decodeTransaction_eq_ok.mpr ⟨selector, message, _, hcall, htarget, rfl⟩,
      validateTransaction_eq_nil.mpr hcompared⟩

/-! ## 7. The receiver -/

theorem abiEncode_address (a : Address) : abiEncode [toWord a] = beBytes 32 a.toNat := by
  have hlt : a.toNat < 2 ^ 256 := lt_trans a.isLt (by decide)
  rw [abiEncode_cons, wordBytes, BitVec.toNat_setWidth, Nat.mod_eq_of_lt hlt]
  exact List.append_nil _

/-- **The receiver that is read from the encoding of an address is that address.** -/
theorem recipientOf_abiEncode (a : Address) :
    recipientOf (abiEncode [toWord a]) = getAddress a := by
  have htext : bytesText (beBytes 32 a.toNat) = hexText 32 a.toNat := by
    rw [bytesText, hexOf_beBytes]
    rfl
  have hhex : receiverHex (abiEncode [toWord a]) = hexText 20 a.toNat := by
    have hlist := toList_hexText 32 a.toNat
    have hlen : (hexText 32 a.toNat).length = 66 := by
      rw [← String.length_toList, hlist, List.length_cons, List.length_cons, length_hexDigits]
    have hdrop : (hexText 32 a.toNat).toList.drop 26 = hexDigits 40 a.toNat := by
      rw [hlist, List.drop_succ_cons, List.drop_succ_cons,
        show 2 * 32 = 24 + 40 from rfl, hexDigits_add]
      exact List.drop_left' (length_hexDigits 24 _)
    unfold receiverHex
    simp only [abiEncode_address, htext, hlen, le_refl, if_true, Nat.reduceSub, hdrop]
    rfl
  unfold recipientOf
  rw [hhex, addressOf_hexText]

theorem encodes_of_zeros {receiver : Bytes} (hlen : receiver.length = 32)
    (hzeros : receiver.take 12 = List.replicate 12 0) : ∃ a : Address, receiver = abiEncode [toWord a] := by
  obtain ⟨v, hlt, heq⟩ := eq_beBytes_of_zeros (k := 20) hlen hzeros
  have hval : (BitVec.ofNat 160 v).toNat = v := by
    rw [BitVec.toNat_ofNat]
    exact Nat.mod_eq_of_lt hlt
  exact ⟨BitVec.ofNat 160 v, by rw [abiEncode_address, hval, heq]⟩

theorem zeros_abiEncode (a : Address) : (abiEncode [toWord a]).length = 32 ∧
    (abiEncode [toWord a]).take 12 = List.replicate 12 0 := by
  have hlt : a.toNat < 256 ^ 20 := a.isLt
  refine ⟨abiEncode_length _, ?_⟩
  rw [abiEncode_address, show 32 = 12 + 20 from rfl, beBytes_add, Nat.div_eq_of_lt hlt,
    beBytes_zero]
  exact List.take_left' List.length_replicate

end

/-! ## 8. The send that was asked for -/

/-- The message, and the transaction that carries it, are what the intent and the constraints
    ask for. The fee is paid from the attached value only where the fee token is the native one. -/
structure AsAsked (message : EVM2AnyMessage) (selector : Uint64) (prepared : CcipPrepared)
    (intent : CcipIntent) (c : CcipConstraints) : Prop where
  chain : prepared.chainId = intent.sourceChainId
  receiver : ∃ a : Address, Names intent.receiver a ∧ message.receiver = abiEncode [toWord a]
  listed : listedIn (receiversAllowed c) intent.receiver
  destination : ∃ d, ccipDeploymentFor intent.destinationChainId = some d ∧
    d.chainSelector = toString selector.toNat
  tokens : List.Forall₂ Transfers message.tokenAmounts intent.tokenTransfers
  payload : sameText intent.data (bytesText message.data)
  feeToken : Names intent.feeToken message.feeToken
  value : message.feeToken ≠ 0 → weiOf prepared.value = some 0

def SendsAsAsked (decodeFunctionData : String → Except String RouterCall)
    (prepared : CcipPrepared) (intent : CcipIntent) (c : CcipConstraints) : Prop :=
  ∃ selector message, decodeFunctionData prepared.data = .ok (.ccipSend selector message) ∧
    AsAsked message selector prepared intent c

/-- What nothing compares: the chain the constraints are for, the receiver's length and first
    twelve bytes, whether there is an allow-list, the bytes of a payload, the fee. -/
structure Pinned (message : EVM2AnyMessage) (prepared : CcipPrepared) (intent : CcipIntent)
    (c : CcipConstraints) : Prop where
  chain : c.chainId = intent.sourceChainId
  length : message.receiver.length = 32
  zeros : message.receiver.take 12 = List.replicate 12 0
  allowList : receiversAllowed c ≠ []
  payload : if intent.action = .CROSS_CHAIN_TOKEN_TRANSFER then sameText intent.data "0x"
    else sameText intent.data (bytesText message.data)
  feeToken : Names intent.feeToken message.feeToken
  value : message.feeToken ≠ 0 → weiOf prepared.value = some 0

/-- The calldata is a send, and what nothing compares is in order. -/
def SendPinned (decodeFunctionData : String → Except String RouterCall)
    (prepared : CcipPrepared) (intent : CcipIntent) (c : CcipConstraints) : Prop :=
  ∃ selector message, decodeFunctionData prepared.data = .ok (.ccipSend selector message) ∧
    Pinned message prepared intent c

section

variable {decodeFunctionData : String → Except String RouterCall} {prepared : CcipPrepared}
  {intent : CcipIntent} {c : CcipConstraints} {selector : Uint64} {message : EVM2AnyMessage}
  {target : Address}

theorem payload_iff (h : actionOf message = intent.action) :
    (if intent.action = .CROSS_CHAIN_TOKEN_TRANSFER then sameText intent.data "0x"
      else sameText intent.data (bytesText message.data)) ↔
    sameText intent.data (bytesText message.data) := by
  split
  · rename_i htransfer
    rw [htransfer] at h
    unfold actionOf at h
    split at h
    · rename_i hempty
      rw [hempty]
    · cases h
  · exact Iff.rfl

theorem asAsked_iff_pinned (h : Compared prepared target selector message intent c) :
    AsAsked message selector prepared intent c ↔ Pinned message prepared intent c := by
  have hchain : prepared.chainId = c.chainId := strictEq_true h.chain
  constructor
  · intro hasked
    obtain ⟨a, -, hreceiver⟩ := hasked.receiver
    have hzeros := zeros_abiEncode a
    rw [← hreceiver] at hzeros
    refine ⟨hchain ▸ hasked.chain, hzeros.1, hzeros.2, fun hnil => ?_,
      (payload_iff h.action).mpr hasked.payload, hasked.feeToken, hasked.value⟩
    have hlisted := hasked.listed
    rw [hnil] at hlisted
    exact List.not_mem_nil hlisted
  · intro hpinned
    obtain ⟨a, hreceiver⟩ := encodes_of_zeros hpinned.length hpinned.zeros
    have hrecipient : recipientOf message.receiver = getAddress a := by
      rw [hreceiver, recipientOf_abiEncode]
    have hsame : sameText (getAddress a) intent.receiver := hrecipient ▸ h.receiver
    have hlisted : listedIn (receiversAllowed c) (getAddress a) :=
      hrecipient ▸ h.allowed hpinned.allowList
    refine ⟨hchain.trans hpinned.chain, ⟨a, sameText_getAddress.mp hsame, hreceiver⟩, ?_,
      h.destination, h.tokens, (payload_iff h.action).mp hpinned.payload, hpinned.feeToken,
      hpinned.value⟩
    unfold listedIn at hlisted ⊢
    rw [← show toLowerCase (getAddress a) = toLowerCase intent.receiver from hsame]
    exact hlisted

theorem exists_send_iff {P : Uint64 → EVM2AnyMessage → Prop}
    (h : decodeFunctionData prepared.data = .ok (.ccipSend selector message)) :
    (∃ s m, decodeFunctionData prepared.data = .ok (.ccipSend s m) ∧ P s m) ↔
      P selector message := by
  rw [h]
  constructor
  · intro hexists
    obtain ⟨s, m, hcall, hp⟩ := hexists
    simp only [Except.ok.injEq, RouterCall.ccipSend.injEq] at hcall
    rw [hcall.1, hcall.2]
    exact hp
  · exact fun hp => ⟨selector, message, rfl, hp⟩

/-- **An accepted send is the one asked for iff what nothing compares is in order.** -/
theorem accepted_sound_iff (h : Accepted decodeFunctionData prepared intent c) :
    SendsAsAsked decodeFunctionData prepared intent c ↔
      SendPinned decodeFunctionData prepared intent c := by
  obtain ⟨selector, message, target, hcall, -, hcompared⟩ := accepted_iff.mp h
  unfold SendsAsAsked SendPinned
  rw [exists_send_iff hcall, exists_send_iff (P := fun _ m => Pinned m prepared intent c) hcall]
  exact asAsked_iff_pinned hcompared

end

/-! ## 9. A send that pays its fee in another token -/

def nativeMessage : EVM2AnyMessage where
  receiver := abiEncode [toWord (0x5e1f : Address)]
  data := []
  tokenAmounts := [⟨0x1c7D4B196Cb0C7B01d743Fbc6116a902379C7238, 1000000⟩]
  feeToken := 0
  extraArgs := []

def nativeCalldata : String :=
  "0x96f4e9f9" ++
    "0000000000000000000000000000000000000000000000008f90b8876dee6538" ++
    "0000000000000000000000000000000000000000000000000000000000000040" ++
    "00000000000000000000000000000000000000000000000000000000000000a0" ++
    "00000000000000000000000000000000000000000000000000000000000000e0" ++
    "0000000000000000000000000000000000000000000000000000000000000100" ++
    "0000000000000000000000000000000000000000000000000000000000000000" ++
    "0000000000000000000000000000000000000000000000000000000000000160" ++
    "0000000000000000000000000000000000000000000000000000000000000020" ++
    "0000000000000000000000000000000000000000000000000000000000005e1f" ++
    "0000000000000000000000000000000000000000000000000000000000000000" ++
    "0000000000000000000000000000000000000000000000000000000000000001" ++
    "0000000000000000000000001c7d4b196cb0c7b01d743fbc6116a902379c7238" ++
    "00000000000000000000000000000000000000000000000000000000000f4240" ++
    "0000000000000000000000000000000000000000000000000000000000000000"

def decodeNative (data : String) : Except String RouterCall :=
  if data = nativeCalldata then .ok (.ccipSend 10344971235874465080 nativeMessage)
  else .error "unknown function signature"

def nativePrepared : CcipPrepared where
  to' := "0x0BF3dE8c5D3e8A2B34D2BEeB17ABfCeBaf363A59"
  data := nativeCalldata
  value := "1000000000000000000"
  chainId := .int 11155111
  summary := ⟨"CROSS_CHAIN_TOKEN_TRANSFER", "84532",
    "0x0000000000000000000000000000000000005e1f", "1000000"⟩

/-- The transfer, with a fee token of its own. -/
def feeIntent (feeToken : String) : CcipIntent where
  action := .CROSS_CHAIN_TOKEN_TRANSFER
  sourceChainId := .int 11155111
  destinationChainId := .int 84532
  receiver := "0x0000000000000000000000000000000000005e1f"
  tokenTransfers := [⟨"0x1c7D4B196Cb0C7B01d743Fbc6116a902379C7238", "1000000"⟩]
  data := "0x"
  feeToken := feeToken
  gasLimit := .int 200000
  timeoutMs := .int 3600000

def ownerOnly : CcipConstraints where
  chainId := .int 11155111
  allowedTargets := ["0x0BF3dE8c5D3e8A2B34D2BEeB17ABfCeBaf363A59"]
  allowedRecipients := .selfOnly
  owner := "0x0000000000000000000000000000000000005e1f"
  maxSlippageBps := none
  allowUnlimitedApprovals := false
  maxApprovalAmount := none
  maxQuoteAgeMs := .int 30000
  permittedDestinationChainIds := some [.int 84532]
  permittedActions := some [.CROSS_CHAIN_TOKEN_TRANSFER]
  allowedDestinationReceivers := some ["0x0000000000000000000000000000000000005e1f"]

theorem decodeNative_calldata :
    decodeNative nativePrepared.data = .ok (.ccipSend 10344971235874465080 nativeMessage) :=
  if_pos rfl

theorem accepted_native (feeToken : String) :
    Accepted decodeNative nativePrepared (feeIntent feeToken) ownerOnly := by
  have hrecipient : recipientOf nativeMessage.receiver = getAddress 0x5e1f :=
    recipientOf_abiEncode 0x5e1f
  have hnames : Names "0x0000000000000000000000000000000000005e1f" 0x5e1f := by decide
  have hsame := sameText_getAddress.mpr hnames
  refine accepted_iff.mpr ⟨_, _, 0x0BF3dE8c5D3e8A2B34D2BEeB17ABfCeBaf363A59,
    decodeNative_calldata, by decide, by decide, ?_, by decide,
    (by decide : actionOf nativeMessage = .CROSS_CHAIN_TOKEN_TRANSFER), ?_, ?_, fun _ => ?_, ?_, ?_⟩
  · exact ⟨⟨11155111, "16015286601757825753", "0x0BF3dE8c5D3e8A2B34D2BEeB17ABfCeBaf363A59"⟩,
      by decide, by decide⟩
  · have hdestination : ccipDeploymentFor (.int 84532) =
        some ⟨84532, "10344971235874465080", "0xD3b06cEbF099CE7DA4AcCf578aaebFDBd6e88a93"⟩ := by
      decide
    exact ⟨_, hdestination, by decide⟩
  · refine ⟨84532, by decide, fun ids hids => ?_⟩
    obtain rfl : [Js.Num.int 84532] = ids := Option.some.inj hids
    decide
  · rw [hrecipient]
    unfold listedIn
    rw [show toLowerCase (getAddress 0x5e1f) = _ from hsame]
    decide
  · rw [hrecipient]
    exact hsame
  · exact .cons ⟨by decide, by decide⟩ .nil

/-- The fee the intent wants paid in another token is paid in the native one. -/
theorem native_fee_counterexample :
    ∃ intent, normalizeIntent intent = [] ∧ Accepted decodeNative nativePrepared intent ownerOnly ∧
      ¬ SendsAsAsked decodeNative nativePrepared intent ownerOnly := by
  refine ⟨feeIntent "0x779877A7B0D9E8603169DdbD7836e478b4624789", by decide, accepted_native _,
    fun h => ?_⟩
  have hasked := (exists_send_iff (P := fun s m => AsAsked m s nativePrepared _ ownerOnly)
    decodeNative_calldata).mp h
  exact absurd hasked.feeToken (by decide)

theorem accepted_sound_iff_native : SendsAsAsked decodeNative nativePrepared
    (feeIntent "0x0000000000000000000000000000000000000000") ownerOnly := by
  refine (accepted_sound_iff (accepted_native _)).mpr
    ⟨_, _, decodeNative_calldata, rfl, rfl, ?_, ?_, ?_, ?_, fun hne => absurd rfl hne⟩
  · decide
  · decide
  · decide
  · decide

end ContextLock.Execution.Ccip
