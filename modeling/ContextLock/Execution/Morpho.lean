/-
  Subject:   The Morpho execution adapter: markets, intents, the calls that are built, decoded and
             validated.
-/
import ContextLock.Execution.Lending

namespace ContextLock.Execution.Morpho

open Js Evm

/-! ## 1. Markets and calls of the singleton -/

structure MarketParams where
  loanToken : Address
  collateralToken : Address
  oracle : Address
  irm : Address
  lltv : Uint256

structure MorphoMarketParams where
  loanToken : String
  collateralToken : String
  oracle : String
  irm : String
  lltv : String

@[irreducible] def MarketParams.id (p : MarketParams) : Bytes32 :=
  keccak256 (abiEncode [toWord p.loanToken, toWord p.collateralToken, toWord p.oracle,
    toWord p.irm, p.lltv])

def tupleOf (p : MorphoMarketParams) : Except Thrown MarketParams := do
  let loanToken ← address p.loanToken
  let collateralToken ← address p.collateralToken
  let oracle ← address p.oracle
  let irm ← address p.irm
  let lltv ← uint256 (decimalValue p.lltv)
  return ⟨loanToken, collateralToken, oracle, irm, lltv⟩

def marketIdOf (p : MorphoMarketParams) : Except Thrown Bytes32 := (tupleOf p).map MarketParams.id

/-- A call of `MORPHO_ABI`; the functions that only read are known by their name. -/
inductive MorphoCall where
  | view (functionName : String)
  | supplyCollateral (params : MarketParams) (assets : Uint256) (onBehalf : Address) (data : Bytes)
  | repay (params : MarketParams) (assets shares : Uint256) (onBehalf : Address) (data : Bytes)
  | withdrawCollateral (params : MarketParams) (assets : Uint256) (onBehalf receiver : Address)
  | borrow (params : MarketParams) (assets shares : Uint256) (onBehalf receiver : Address)

inductive MorphoActionKind where
  | MORPHO_SUPPLY_COLLATERAL
  | MORPHO_REPAY
  | MORPHO_WITHDRAW_COLLATERAL
  | MORPHO_BORROW
  deriving DecidableEq

def MorphoActionKind.text : MorphoActionKind → String
  | MORPHO_SUPPLY_COLLATERAL => "MORPHO_SUPPLY_COLLATERAL"
  | MORPHO_REPAY => "MORPHO_REPAY"
  | MORPHO_WITHDRAW_COLLATERAL => "MORPHO_WITHDRAW_COLLATERAL"
  | MORPHO_BORROW => "MORPHO_BORROW"

structure MorphoIntent where
  action : MorphoActionKind
  chainId : Js.Num
  account : String
  marketId : String
  params : MorphoMarketParams
  amount : String

/-- The Blueprint's permitted actions; `none` where they are not given. -/
structure MorphoConstraints extends ExecutionConstraints where
  permittedActions : Option (List MorphoActionKind)

def MORPHO_HIGH_RISK_ACTIONS : List MorphoActionKind :=
  [.MORPHO_WITHDRAW_COLLATERAL, .MORPHO_BORROW]

structure MorphoDeployment where
  chainId : Nat
  morpho : String

def MORPHO_DEPLOYMENTS : List MorphoDeployment :=
  [⟨11155111, "0xd011EE229E7459ba1ddd22631eF7bF528d424A14"⟩,
   ⟨1, "0xBBBBBbbBBb9cC5e90e3b3Af64bdAF62C37EEFFCb"⟩]

def morphoDeploymentFor (chainId : Js.Num) : Except Thrown MorphoDeployment :=
  match MORPHO_DEPLOYMENTS.find? fun d => Js.Num.int d.chainId = chainId with
  | some d => .ok d
  | none => .error (.other (s!"no verified Morpho Blue deployment recorded for chain " ++
      s!"{chainId.text}; refusing to guess the singleton's address"))

def MorphoMarketParams.named (p : MorphoMarketParams) : Bool :=
  isAddress p.loanToken && isAddress p.collateralToken && isAddress p.oracle && isAddress p.irm &&
    isDecimal p.lltv

/-- The market id hashes from the parameters; hashing throws where the number does not fit. -/
def marketProblems (i : MorphoIntent) : Except Thrown (List ValidationProblem) :=
  if i.params.named = false then
    .ok [⟨"MORPHO-I2", .CRITICAL, "params",
      "market params must name loanToken, collateralToken, oracle, irm and lltv"⟩]
  else (marketIdOf i.params).map fun id => flag (¬ sameText (hex32 id) i.marketId)
    ⟨"MORPHO-I5", .CRITICAL, "marketId", "marketId does not hash from the given market params"⟩

/-- `normalizeIntent`, of an intent whose fields have their types: the problems it has. -/
def normalizeIntent (i : MorphoIntent) : Except Thrown (List ValidationProblem) :=
  (marketProblems i).map fun market =>
    addressProblems "MORPHO-I1" "account" i.account ++ market ++
    amountProblems "MORPHO" "base units" i.amount

/-! ## 2. Building -/

def callOf (action : MorphoActionKind) (params : MarketParams) (amount : Uint256)
    (account : Address) : MorphoCall :=
  match action with
  | .MORPHO_SUPPLY_COLLATERAL => .supplyCollateral params amount account []
  | .MORPHO_REPAY => .repay params amount 0 account []
  | .MORPHO_WITHDRAW_COLLATERAL => .withdrawCollateral params amount account account
  | .MORPHO_BORROW => .borrow params amount 0 account account

def buildCall (intent : MorphoIntent) : Except Thrown MorphoCall := do
  let account ← address intent.account
  let params ← tupleOf intent.params
  let amount ← uint256 (decimalValue intent.amount)
  return callOf intent.action params amount account

/-- `buildTransaction` without a builder of its own, of an intent whose amount is in digits. -/
def buildTransaction (encodeFunctionData : MorphoCall → String) (intent : MorphoIntent) :
    Except Thrown LendingPrepared := do
  let d ← morphoDeploymentFor intent.chainId
  let call ← buildCall intent
  return {
    to' := d.morpho
    data := encodeFunctionData call
    value := "0"
    chainId := intent.chainId
    summary := ⟨intent.action.text, intent.account, intent.amount⟩ }

/-! ## 3. Decoding -/

/-- What the arguments of a call are read as. -/
structure Reading where
  function : String
  actionType : MorphoActionKind
  params : MarketParams
  amount : Uint256
  beneficiary : Address
  receiver : Option Address
  callbackData : Option Bytes
  shares : Option Uint256

/-- A function that reads has no market parameters, and the addresses of none are refused. -/
def readingOf : MorphoCall → Option Reading
  | .supplyCollateral params assets onBehalf data => some ⟨"supplyCollateral",
      .MORPHO_SUPPLY_COLLATERAL, params, assets, onBehalf, none, some data, none⟩
  | .repay params assets shares onBehalf data => some ⟨"repay", .MORPHO_REPAY, params, assets,
      onBehalf, none, some data, some shares⟩
  | .withdrawCollateral params assets onBehalf receiver => some ⟨"withdrawCollateral",
      .MORPHO_WITHDRAW_COLLATERAL, params, assets, onBehalf, some receiver, none, none⟩
  | .borrow params assets shares onBehalf receiver => some ⟨"borrow", .MORPHO_BORROW, params,
      assets, onBehalf, some receiver, none, some shares⟩
  | .view _ => none

def Reading.token (r : Reading) : Address :=
  match r.actionType with
  | .MORPHO_SUPPLY_COLLATERAL | .MORPHO_WITHDRAW_COLLATERAL => r.params.collateralToken
  | .MORPHO_REPAY | .MORPHO_BORROW => r.params.loanToken

def Reading.receivesFunds (r : Reading) : Bool := r.receiver.isSome

/-- Who gets the funds of a withdrawal or a loan, and is credited by the others. -/
def Reading.recipient (r : Reading) : Address := r.receiver.getD r.beneficiary

def flow (r : Reading) : AssetFlow where
  token := getAddress r.token
  amount := toString r.amount.toNat
  from' := none
  to' := some (getAddress r.recipient)

def paramsJson (p : MarketParams) : Json :=
  .obj [("loanToken", .str (getAddress p.loanToken)),
    ("collateralToken", .str (getAddress p.collateralToken)),
    ("oracle", .str (getAddress p.oracle)), ("irm", .str (getAddress p.irm)),
    ("lltv", .str (toString p.lltv.toNat))]

def metadataOf (prepared : LendingPrepared) (r : Reading) : List (String × Json) :=
  [("function", .str r.function), ("summary", prepared.summary.json),
   ("receivesFunds", .bool r.receivesFunds), ("marketId", .str (hex32 r.params.id)),
   ("params", paramsJson r.params), ("onBehalf", .str (getAddress r.beneficiary))] ++
  (r.receiver.toList.map fun a => ("receiver", .str (getAddress a))) ++
  (r.callbackData.toList.map fun data => ("callbackData", .str (bytesText data))) ++
  (r.shares.toList.map fun s => ("shares", .str (toString s.toNat)))

def normalized (prepared : LendingPrepared) (target : String) (r : Reading) :
    NormalizedAction where
  chainId := prepared.chainId
  target := target
  calldata := prepared.data
  value := prepared.value
  actionType := r.actionType.text
  inputs := if r.receivesFunds then [] else [flow r]
  outputs := if r.receivesFunds then [flow r] else []
  recipient := some (getAddress r.recipient)
  spender := none
  allowanceChanges := []
  minOutputs := []
  deadline := none
  providerMetadata := metadataOf prepared r

/-- `decodeTransaction`, over what viem decodes calldata to. -/
def decodeTransaction (decodeFunctionData : String → Except String MorphoCall)
    (prepared : LendingPrepared) : Except Thrown NormalizedAction :=
  match decodeFunctionData prepared.data with
  | .error reason => .error (.adapter "MORPHO-NOT-SINGLETON-CALL"
      s!"calldata is not a Morpho Blue call: {reason}")
  | .ok call =>
    match readingOf call with
    | some r => (checksummed prepared.to').map fun target => normalized prepared target r
    | none => .error (.invalidAddress "undefined")

/-! ## 4. Validating -/

def permitted (c : MorphoConstraints) : List MorphoActionKind :=
  c.permittedActions.getD [.MORPHO_SUPPLY_COLLATERAL, .MORPHO_REPAY]

def marketMismatch (n : NormalizedAction) (intent : MorphoIntent) : List ValidationProblem :=
  flag (¬ sameText ((metaText n "marketId").getD "") intent.marketId)
    ⟨"MORPHO-V-MARKET", .CRITICAL, "marketId",
      "decoded market " ++ (metaText n "marketId").getD "undefined" ++
        s!" is not the intended market {intent.marketId}"⟩

def flowProblems (n : NormalizedAction) (intent : MorphoIntent) : List ValidationProblem :=
  match flowOf n with
  | none => [⟨"MORPHO-V-NO-FLOW", .CRITICAL, "inputs", "no asset flow could be decoded"⟩]
  | some f => flag (f.amount ≠ intent.amount) ⟨"MORPHO-V-AMOUNT", .CRITICAL, "amount",
      s!"decoded amount {f.amount} does not match the intended {intent.amount}"⟩

/-- Nothing but the expected text, where there is one. -/
def extraProblems (n : NormalizedAction) (key expected : String) (problem : ValidationProblem) :
    List ValidationProblem :=
  flag (∃ s ∈ metaText n key, s ≠ expected) problem

def onBehalfProblems (n : NormalizedAction) (intent : MorphoIntent) (c : MorphoConstraints) :
    List ValidationProblem :=
  let onBehalf := (metaText n "onBehalf").getD ""
  if onBehalf = "" then
    [⟨"MORPHO-V-NO-BENEFICIARY", .CRITICAL, "recipient", "no beneficiary could be decoded"⟩]
  else
    flag (¬ sameText onBehalf intent.account) ⟨"MORPHO-V-BENEFICIARY", .CRITICAL, "recipient",
      s!"decoded onBehalf {onBehalf} does not match the intended {intent.account}"⟩ ++
    flag (c.allowedRecipients = .selfOnly ∧ ¬ sameText onBehalf c.owner)
      ⟨"MORPHO-V-BENEFICIARY-SELF", .CRITICAL, "recipient",
        s!"policy is self-only; decoded {onBehalf}"⟩

def receiverProblems (n : NormalizedAction) (c : MorphoConstraints) : List ValidationProblem :=
  let receiver := (metaText n "receiver").getD ""
  flag (receiver ≠ "" ∧ c.allowedRecipients = .selfOnly ∧ ¬ sameText receiver c.owner)
    ⟨"MORPHO-V-RECEIVER", .CRITICAL, "recipient",
      s!"funds would go to {receiver}; policy is self-only"⟩

/-- `validateTransaction`: the problems it reports. -/
def validateTransaction (n : NormalizedAction) (intent : MorphoIntent) (c : MorphoConstraints) :
    List ValidationProblem :=
  permittedProblems "MORPHO" (MORPHO_HIGH_RISK_ACTIONS.map MorphoActionKind.text)
    ((permitted c).map MorphoActionKind.text) n "" ++
  mismatchProblems "MORPHO" n intent.action.text ++
  chainProblems "MORPHO" n c.toExecutionConstraints ++
  targetProblems "MORPHO-V-TARGET" "Morpho singleton" n c.toExecutionConstraints ++
  marketMismatch n intent ++
  flowProblems n intent ++
  extraProblems n "shares" "0" ⟨"MORPHO-V-SHARES", .CRITICAL, "shares",
    ("assets and shares must not both be given; shares must be 0 for an exact-assets action")⟩ ++
  extraProblems n "callbackData" "0x" ⟨"MORPHO-V-CALLBACK", .CRITICAL, "data",
    ("callback data must be empty; a callback re-enters the caller with control of the flow")⟩ ++
  onBehalfProblems n intent c ++
  receiverProblems n c

/-! ## 5. What an accepted call has been compared with -/

/-- The adapter decodes the transaction and reports no problem. -/
def Accepted (decodeFunctionData : String → Except String MorphoCall) (prepared : LendingPrepared)
    (intent : MorphoIntent) (c : MorphoConstraints) : Prop :=
  ∃ n, decodeTransaction decodeFunctionData prepared = .ok n ∧ validateTransaction n intent c = []

/-- The comparisons of `validateTransaction`. -/
structure Compared (prepared : LendingPrepared) (target : Address) (r : Reading)
    (intent : MorphoIntent) (c : MorphoConstraints) : Prop where
  permitted : r.actionType ∈ permitted c
  action : r.actionType = intent.action
  chain : Js.Num.strictEq prepared.chainId c.chainId = true
  target : listedIn c.allowedTargets (getAddress target)
  market : sameText (hex32 r.params.id) intent.marketId
  amount : intent.amount = toString r.amount.toNat
  shares : ∀ s ∈ r.shares, s.toNat = 0
  callback : ∀ data ∈ r.callbackData, data = []
  account : Names intent.account r.beneficiary
  owner : c.allowedRecipients = .selfOnly → sameText (getAddress r.beneficiary) c.owner
  receiver : ∀ a ∈ r.receiver, c.allowedRecipients = .selfOnly → sameText (getAddress a) c.owner

section

variable {decodeFunctionData : String → Except String MorphoCall} {prepared : LendingPrepared}
  {intent : MorphoIntent} {c : MorphoConstraints} {r : Reading} {target : String}

theorem text_inj {a b : MorphoActionKind} (h : a.text = b.text) : a = b := by
  have hall : ∀ a b : MorphoActionKind, a.text = b.text → a = b := by
    intro a b
    cases a <;> cases b <;> decide
  exact hall a b h

theorem text_mem {a : MorphoActionKind} {actions : List MorphoActionKind} :
    a.text ∈ actions.map MorphoActionKind.text ↔ a ∈ actions :=
  List.mem_map_of_injective fun _ _ => text_inj

/-- **Only a call that can be read is decoded**, and as it is read. -/
theorem decodeTransaction_eq_ok {n : NormalizedAction} :
    decodeTransaction decodeFunctionData prepared = .ok n ↔
      ∃ call r a, decodeFunctionData prepared.data = .ok call ∧ readingOf call = some r ∧
        addressOf prepared.to' = some a ∧ n = normalized prepared (getAddress a) r := by
  unfold decodeTransaction
  cases decodeFunctionData prepared.data with
  | error reason => simp
  | ok call =>
    cases hr : readingOf call with
    | none => simp [hr]
    | some r =>
      cases ha : addressOf prepared.to' with
      | none => simp [checksummed, ha, hr, Except.map]
      | some a => simp [checksummed, ha, hr, Except.map, eq_comm]

theorem flowOf_normalized : flowOf (normalized prepared target r) = some (flow r) := by
  unfold flowOf normalized
  cases r.receivesFunds <;> rfl

theorem flowProblems_eq_nil : flowProblems (normalized prepared target r) intent = [] ↔
    intent.amount = toString r.amount.toNat := by
  unfold flowProblems
  rw [flowOf_normalized]
  simp only [flag_eq_nil, ne_eq, not_not]
  exact eq_comm

theorem metaText_marketId :
    metaText (normalized prepared target r) "marketId" = some (hex32 r.params.id) := rfl

theorem metaText_onBehalf :
    metaText (normalized prepared target r) "onBehalf" = some (getAddress r.beneficiary) := rfl

theorem metaText_receiver :
    metaText (normalized prepared target r) "receiver" = r.receiver.map getAddress := by
  unfold metaText normalized metadataOf
  cases r.receiver <;> cases r.callbackData <;> cases r.shares <;> rfl

theorem metaText_callback :
    metaText (normalized prepared target r) "callbackData" = r.callbackData.map bytesText := by
  unfold metaText normalized metadataOf
  cases r.receiver <;> cases r.callbackData <;> cases r.shares <;> rfl

theorem metaText_shares : metaText (normalized prepared target r) "shares" =
    r.shares.map fun s => toString s.toNat := by
  unfold metaText normalized metadataOf
  cases r.receiver <;> cases r.callbackData <;> cases r.shares <;> rfl

theorem sharesProblems_eq_nil {problem : ValidationProblem} :
    extraProblems (normalized prepared target r) "shares" "0" problem = [] ↔
      ∀ s ∈ r.shares, s.toNat = 0 := by
  have hzero : ∀ n : Nat, toString n = "0" ↔ n = 0 := fun n =>
    ⟨fun h => toString_nat_inj (n := 0) h, fun h => by rw [h]; rfl⟩
  unfold extraProblems
  rw [flag_eq_nil, metaText_shares]
  cases r.shares with
  | none => simp
  | some s =>
    simp only [Option.map_some, Option.mem_def, Option.some.injEq, exists_eq_left', forall_eq',
      ne_eq, not_not]
    exact hzero _

theorem bytesText_eq_empty {data : Bytes} : bytesText data = "0x" ↔ data = [] := by
  constructor
  · intro h
    have hlist := congrArg String.toList h
    cases data with
    | nil => rfl
    | cons b bs =>
      simp [bytesText, hexOf, hexDigits] at hlist
  · intro h
    rw [h]
    rfl

theorem callbackProblems_eq_nil {problem : ValidationProblem} :
    extraProblems (normalized prepared target r) "callbackData" "0x" problem = [] ↔
      ∀ data ∈ r.callbackData, data = [] := by
  unfold extraProblems
  rw [flag_eq_nil, metaText_callback]
  cases r.callbackData with
  | none => simp
  | some data =>
    simp only [Option.map_some, Option.mem_def, Option.some.injEq, exists_eq_left', forall_eq',
      ne_eq, not_not]
    exact bytesText_eq_empty

theorem onBehalfProblems_eq_nil : onBehalfProblems (normalized prepared target r) intent c = [] ↔
    Names intent.account r.beneficiary ∧
      (c.allowedRecipients = .selfOnly → sameText (getAddress r.beneficiary) c.owner) := by
  unfold onBehalfProblems
  rw [metaText_onBehalf, Option.getD_some]
  simp only []
  rw [if_neg (getAddress_ne_empty _), List.append_eq_nil_iff, flag_eq_nil, flag_eq_nil, not_not,
    sameText_getAddress, not_and, not_not]

theorem receiverProblems_eq_nil : receiverProblems (normalized prepared target r) c = [] ↔
    ∀ a ∈ r.receiver, c.allowedRecipients = .selfOnly → sameText (getAddress a) c.owner := by
  simp only [receiverProblems, metaText_receiver, flag_eq_nil]
  cases r.receiver with
  | none => simp
  | some a => simp [getAddress_ne_empty]

theorem marketMismatch_eq_nil : marketMismatch (normalized prepared target r) intent = [] ↔
    sameText (hex32 r.params.id) intent.marketId := by
  unfold marketMismatch
  rw [flag_eq_nil, not_not, metaText_marketId, Option.getD_some]

/-- **The comparisons of `validateTransaction`**, all of them. -/
theorem validateTransaction_eq_nil {a : Address} :
    validateTransaction (normalized prepared (getAddress a) r) intent c = [] ↔
      Compared prepared a r intent c := by
  have htype : (normalized prepared (getAddress a) r).actionType = r.actionType.text := rfl
  have hchain : (normalized prepared (getAddress a) r).chainId = prepared.chainId := rfl
  have htarget : (normalized prepared (getAddress a) r).target = getAddress a := rfl
  simp only [validateTransaction, permittedProblems, mismatchProblems, chainProblems,
    targetProblems, marketMismatch_eq_nil, List.append_eq_nil_iff, flag_eq_nil, flowProblems_eq_nil,
    sharesProblems_eq_nil, callbackProblems_eq_nil, onBehalfProblems_eq_nil,
    receiverProblems_eq_nil, htype, hchain, htarget, text_mem,
    ne_eq, not_not, Bool.not_eq_false]
  constructor
  · intro h
    obtain ⟨⟨⟨⟨⟨⟨⟨⟨⟨hpermitted, haction⟩, hchain⟩, htarget⟩, hmarket⟩, hamount⟩, hshares⟩,
      hcallback⟩, haccount, howner⟩, hreceiver⟩ := h
    exact ⟨hpermitted, text_inj haction, hchain, htarget, hmarket, hamount, hshares, hcallback,
      haccount, howner, hreceiver⟩
  · intro h
    exact ⟨⟨⟨⟨⟨⟨⟨⟨⟨h.permitted, congrArg MorphoActionKind.text h.action⟩, h.chain⟩, h.target⟩,
      h.market⟩, h.amount⟩, h.shares⟩, h.callback⟩, h.account, h.owner⟩, h.receiver⟩

/-- **What is accepted, and nothing else**: a call that agrees in all that is compared. -/
theorem accepted_iff : Accepted decodeFunctionData prepared intent c ↔
    ∃ call r a, decodeFunctionData prepared.data = .ok call ∧ readingOf call = some r ∧
      addressOf prepared.to' = some a ∧ Compared prepared a r intent c := by
  exact exists_decoded_iff (fun _ => decodeTransaction_eq_ok) fun _ _ => validateTransaction_eq_nil

end

/-! ## 6. Lawful calls -/

/-- A movement in a market: the amount is the assets', where no shares are asked for. -/
def movement (params : MarketParams) (assets shares : Uint256) (onBehalf recipient : Address) :
    Effect where
  asset := hex32 params.id
  amount := if shares.toNat = 0 then some assets.toNat else none
  credited := some (getAddress onBehalf)
  receivers := [getAddress recipient]
  stake := false

/-- What a call of the singleton does. -/
def effectOf : MorphoCall → Option Effect
  | .supplyCollateral params assets onBehalf _ =>
    some (movement params assets 0 onBehalf onBehalf)
  | .repay params assets shares onBehalf _ => some (movement params assets shares onBehalf onBehalf)
  | .withdrawCollateral params assets onBehalf receiver =>
    some (movement params assets 0 onBehalf receiver)
  | .borrow params assets shares onBehalf receiver =>
    some (movement params assets shares onBehalf receiver)
  | .view _ => none

/-- Whom the funds of a call go to. -/
def recipientOf : MorphoCall → Option Address
  | .supplyCollateral _ _ onBehalf _ => some onBehalf
  | .repay _ _ _ onBehalf _ => some onBehalf
  | .withdrawCollateral _ _ _ receiver => some receiver
  | .borrow _ _ _ _ receiver => some receiver
  | .view _ => none

/-- The call does what the intent asks for, and no more than the constraints permit. -/
def DoesAsAsked (decodeFunctionData : String → Except String MorphoCall)
    (prepared : LendingPrepared) (intent : MorphoIntent) (c : MorphoConstraints) : Prop :=
  ∃ call e, decodeFunctionData prepared.data = .ok call ∧ effectOf call = some e ∧
    Lawful e ⟨[intent.marketId], intent.amount, intent.account⟩ c.toExecutionConstraints
      prepared.value

/-- No value is attached, and a list of recipients has the one the calldata names. -/
def InOrder (decodeFunctionData : String → Except String MorphoCall) (prepared : LendingPrepared)
    (c : MorphoConstraints) : Prop :=
  weiOf prepared.value = some 0 ∧ ∀ recipients, c.allowedRecipients = .listed recipients →
    ∃ call recipient, decodeFunctionData prepared.data = .ok call ∧
      recipientOf call = some recipient ∧ listedIn recipients (getAddress recipient)

section

variable {decodeFunctionData : String → Except String MorphoCall} {prepared : LendingPrepared}
  {intent : MorphoIntent} {c : MorphoConstraints} {r : Reading} {target : Address}

theorem lawful_movement_iff {params : MarketParams} {assets shares : Uint256}
    {onBehalf recipient : Address} {assetTexts : List String}
    {amountText accountText value : String} {ec : ExecutionConstraints} :
    Lawful (movement params assets shares onBehalf recipient)
        ⟨assetTexts, amountText, accountText⟩ ec value ↔
      listedIn assetTexts (hex32 params.id) ∧
        (if shares.toNat = 0 then some assets.toNat else none) = weiOf amountText ∧
        Names accountText onBehalf ∧ Permits ec (getAddress recipient) ∧ weiOf value = some 0 := by
  constructor
  · intro h
    exact ⟨h.asset, h.amount, sameText_getAddress.mp (h.credited _ rfl),
      h.receivers _ (List.mem_singleton.mpr rfl), h.value⟩
  · intro h
    obtain ⟨hasset, hamount, haccount, hpermits, hvalue⟩ := h
    refine ⟨hasset, hamount, fun s hs => ?_, fun s hs => ?_, hvalue⟩
    · obtain rfl := Option.some.inj hs
      exact sameText_getAddress.mpr haccount
    · obtain rfl := List.mem_singleton.mp hs
      exact hpermits

theorem effectOf_of_reading {call : MorphoCall} (hr : readingOf call = some r) :
    recipientOf call = some r.recipient ∧
      effectOf call = some (movement r.params r.amount (r.shares.getD 0) r.beneficiary
        r.recipient) := by
  cases call with
  | view functionName => cases hr
  | supplyCollateral params assets onBehalf data | repay params assets shares onBehalf data
  | withdrawCollateral params assets onBehalf receiver
  | borrow params assets shares onBehalf receiver =>
    obtain rfl := Option.some.inj hr
    exact ⟨rfl, rfl⟩

theorem recipient_owner (h : Compared prepared target r intent c)
    (hself : c.allowedRecipients = .selfOnly) : sameText (getAddress r.recipient) c.owner := by
  unfold Reading.recipient
  cases hreceiver : r.receiver with
  | none => exact h.owner hself
  | some a => exact h.receiver a hreceiver hself

/-- What has been compared leaves the value open, and whether a list has the recipient. -/
theorem lawful_of_compared {call : MorphoCall} (hr : readingOf call = some r)
    (h : Compared prepared target r intent c) :
    ∃ e, effectOf call = some e ∧ (Lawful e ⟨[intent.marketId], intent.amount, intent.account⟩
      c.toExecutionConstraints prepared.value ↔ weiOf prepared.value = some 0 ∧
        ∀ recipients, c.allowedRecipients = .listed recipients →
          listedIn recipients (getAddress r.recipient)) := by
  have hasset : listedIn [intent.marketId] (hex32 r.params.id) := listedIn_singleton.mpr h.market
  have hshares : (r.shares.getD 0).toNat = 0 := by
    cases hs : r.shares with
    | none => rfl
    | some s => exact h.shares s hs
  have hamount : (if (r.shares.getD 0).toNat = 0 then some r.amount.toNat else none) =
      weiOf intent.amount := by
    rw [if_pos hshares, h.amount, weiOf_toString]
  have hpermits : Permits c.toExecutionConstraints (getAddress r.recipient) ↔
      ∀ recipients, c.allowedRecipients = .listed recipients →
        listedIn recipients (getAddress r.recipient) := by
    rw [permits_iff, and_iff_right (recipient_owner h)]
  refine ⟨_, (effectOf_of_reading hr).2, ?_⟩
  rw [lawful_movement_iff, hpermits]
  constructor
  · exact fun hlawful => ⟨hlawful.2.2.2.2, hlawful.2.2.2.1⟩
  · exact fun hopen => ⟨hasset, hamount, h.account, hopen.2, hopen.1⟩

/-- **An accepted call is lawful iff no value is attached to it, and a list of recipients has
    the one it names.** -/
theorem lawful_iff (h : Accepted decodeFunctionData prepared intent c) :
    DoesAsAsked decodeFunctionData prepared intent c ↔ InOrder decodeFunctionData prepared c := by
  obtain ⟨call, r, a, hcall, hr, -, hcompared⟩ := accepted_iff.mp h
  obtain ⟨e, he, hiff⟩ := lawful_of_compared hr hcompared
  have hrecipient := (effectOf_of_reading hr).1
  constructor
  · intro hlawful
    obtain ⟨call', e', hcall', he', hlawful⟩ := hlawful
    obtain rfl : call = call' := Except.ok.inj (hcall.symm.trans hcall')
    obtain rfl : e = e' := Option.some.inj (he.symm.trans he')
    obtain ⟨hvalue, hlisted⟩ := hiff.mp hlawful
    exact ⟨hvalue, fun recipients hlist => ⟨call, _, hcall, hrecipient, hlisted recipients hlist⟩⟩
  · intro hopen
    refine ⟨call, e, hcall, he, hiff.mpr ⟨hopen.1, fun recipients hlist => ?_⟩⟩
    obtain ⟨call', recipient, hcall', hrecipient', hlisted⟩ := hopen.2 recipients hlist
    obtain rfl : call = call' := Except.ok.inj (hcall.symm.trans hcall')
    obtain rfl : r.recipient = recipient := Option.some.inj (hrecipient.symm.trans hrecipient')
    exact hlisted

end

/-! ## 7. Built, decoded, validated -/

/-- What the builder makes is decoded as the action of the intent, with its amount, and accepted. -/
def RoundTrips (encodeFunctionData : MorphoCall → String)
    (decodeFunctionData : String → Except String MorphoCall) (intent : MorphoIntent)
    (c : MorphoConstraints) : Prop :=
  ∃ prepared n, buildTransaction encodeFunctionData intent = .ok prepared ∧
    decodeTransaction decodeFunctionData prepared = .ok n ∧ validateTransaction n intent c = [] ∧
    n.actionType = intent.action.text ∧ ∃ f, flowOf n = some f ∧ f.amount = intent.amount

structure Recognised (intent : MorphoIntent) : Prop where
  leading : intent.amount.toList.head? ≠ some '0'
  fits : decimalValue intent.amount < 2 ^ 256

section

variable {encodeFunctionData : MorphoCall → String}
  {decodeFunctionData : String → Except String MorphoCall} {intent : MorphoIntent}
  {c : MorphoConstraints} {d : MorphoDeployment}

theorem addressOf_morpho (hd : morphoDeploymentFor intent.chainId = .ok d) :
    ∃ a, addressOf d.morpho = some a := by
  unfold morphoDeploymentFor at hd
  split at hd
  · rename_i d' hfind
    obtain rfl := Except.ok.inj hd
    have hall : ∀ d ∈ MORPHO_DEPLOYMENTS, isAddress d.morpho = true := by decide
    exact (isAddress_iff _).mp (hall _ (List.mem_of_find?_eq_some hfind))
  · cases hd

def builtReading (action : MorphoActionKind) (params : MarketParams) (amount : Uint256)
    (account : Address) : Reading :=
  match action with
  | .MORPHO_SUPPLY_COLLATERAL => ⟨"supplyCollateral", .MORPHO_SUPPLY_COLLATERAL, params, amount,
      account, none, some [], none⟩
  | .MORPHO_REPAY => ⟨"repay", .MORPHO_REPAY, params, amount, account, none, some [], some 0⟩
  | .MORPHO_WITHDRAW_COLLATERAL => ⟨"withdrawCollateral", .MORPHO_WITHDRAW_COLLATERAL, params,
      amount, account, some account, none, none⟩
  | .MORPHO_BORROW => ⟨"borrow", .MORPHO_BORROW, params, amount, account, some account, none,
      some 0⟩

theorem readingOf_callOf {action : MorphoActionKind} {params : MarketParams} {amount : Uint256}
    {account : Address} : readingOf (callOf action params amount account) =
      some (builtReading action params amount account) := by
  cases action <;> rfl

theorem builtReading_fields (action : MorphoActionKind) (params : MarketParams) (amount : Uint256)
    (account : Address) : let r := builtReading action params amount account
      r.actionType = action ∧ r.params = params ∧ r.amount = amount ∧ r.beneficiary = account ∧
        (∀ a ∈ r.receiver, a = account) ∧ (∀ data ∈ r.callbackData, data = []) ∧
        ∀ s ∈ r.shares, s.toNat = 0 := by
  cases action with
  | MORPHO_SUPPLY_COLLATERAL => simp [builtReading]
  | MORPHO_REPAY => simp [builtReading]
  | MORPHO_WITHDRAW_COLLATERAL => simp [builtReading]
  | MORPHO_BORROW => simp [builtReading]

def preparedOf (encodeFunctionData : MorphoCall → String) (intent : MorphoIntent)
    (d : MorphoDeployment) (call : MorphoCall) : LendingPrepared :=
  ⟨d.morpho, encodeFunctionData call, "0", intent.chainId,
    ⟨intent.action.text, intent.account, intent.amount⟩⟩

theorem buildCall_eq_ok {call : MorphoCall} : buildCall intent = .ok call ↔
    ∃ account params, addressOf intent.account = some account ∧
      tupleOf intent.params = .ok params ∧ decimalValue intent.amount < 2 ^ 256 ∧
      call = callOf intent.action params (BitVec.ofNat 256 (decimalValue intent.amount))
        account := by
  simp only [buildCall, bind_eq_ok, address_eq_ok, uint256_eq_ok, pure_eq_ok]
  constructor
  · intro h
    obtain ⟨account, haccount, params, hparams, amount, ⟨hfits, rfl⟩, hcall⟩ := h
    exact ⟨account, params, haccount, hparams, hfits, hcall⟩
  · intro h
    obtain ⟨account, params, haccount, hparams, hfits, hcall⟩ := h
    exact ⟨account, haccount, params, hparams, _, ⟨hfits, rfl⟩, hcall⟩

theorem buildTransaction_eq_ok (hd : morphoDeploymentFor intent.chainId = .ok d)
    {prepared : LendingPrepared} : buildTransaction encodeFunctionData intent = .ok prepared ↔
      ∃ call, buildCall intent = .ok call ∧
        prepared = preparedOf encodeFunctionData intent d call := by
  simp only [buildTransaction, bind_eq_ok, pure_eq_ok, hd, Except.ok.injEq, exists_eq_left']
  rfl

theorem roundTrips_iff_compared (hd : morphoDeploymentFor intent.chainId = .ok d)
    (hinverse : ∀ call, buildCall intent = .ok call →
      decodeFunctionData (encodeFunctionData call) = .ok call) :
    RoundTrips encodeFunctionData decodeFunctionData intent c ↔
      ∃ call r a, buildCall intent = .ok call ∧ readingOf call = some r ∧
        addressOf d.morpho = some a ∧
        Compared (preparedOf encodeFunctionData intent d call) a r intent c := by
  constructor
  · intro h
    obtain ⟨prepared, n, hbuild, hdecode, hvalid, -⟩ := h
    obtain ⟨call, hcall, rfl⟩ := (buildTransaction_eq_ok hd).mp hbuild
    obtain ⟨call', r, a, hcall', hr, ha, rfl⟩ := decodeTransaction_eq_ok.mp hdecode
    obtain rfl := Except.ok.inj ((hinverse call hcall).symm.trans hcall')
    exact ⟨call, r, a, hcall, hr, ha, validateTransaction_eq_nil.mp hvalid⟩
  · intro h
    obtain ⟨call, r, a, hcall, hr, ha, hcompared⟩ := h
    exact ⟨_, _, (buildTransaction_eq_ok hd).mpr ⟨call, hcall, rfl⟩,
      decodeTransaction_eq_ok.mpr ⟨call, r, a, hinverse call hcall, hr, ha, rfl⟩,
      validateTransaction_eq_nil.mpr hcompared,
      congrArg MorphoActionKind.text hcompared.action, flow r,
      flowOf_normalized, hcompared.amount.symm⟩

theorem normalizeIntent_eq_nil (h : normalizeIntent intent = .ok []) :
    (∃ account, addressOf intent.account = some account) ∧
      (∃ params, tupleOf intent.params = .ok params ∧ sameText (hex32 params.id) intent.marketId) ∧
      isDecimal intent.amount = true ∧ decimalValue intent.amount ≠ 0 := by
  unfold normalizeIntent at h
  obtain ⟨market, hmarket, hnil⟩ := map_eq_ok.mp h
  rw [List.append_eq_nil_iff, List.append_eq_nil_iff, addressProblems_eq_nil,
    amountProblems_eq_nil] at hnil
  obtain ⟨⟨haccount, rfl⟩, hamount⟩ := hnil
  refine ⟨haccount, ?_, hamount⟩
  unfold marketProblems at hmarket
  split at hmarket
  · cases hmarket
  · obtain ⟨id, hid, hflag⟩ := map_eq_ok.mp hmarket
    obtain ⟨params, hparams, rfl⟩ := map_eq_ok.mp hid
    exact ⟨params, hparams, not_not.mp (flag_eq_nil.mp hflag)⟩

/-- **Which intents go round**: those that are recognised. -/
theorem roundTrips_iff (hnormal : normalizeIntent intent = .ok [])
    (hd : morphoDeploymentFor intent.chainId = .ok d)
    (hsuits : Suits c.toExecutionConstraints intent.chainId intent.account d.morpho)
    (hpermitted : intent.action ∈ permitted c)
    (hinverse : ∀ call, buildCall intent = .ok call →
      decodeFunctionData (encodeFunctionData call) = .ok call) :
    RoundTrips encodeFunctionData decodeFunctionData intent c ↔ Recognised intent := by
  obtain ⟨⟨account, haccount⟩, ⟨params, hparams, hmarket⟩, hdecimal, hpositive⟩ :=
    normalizeIntent_eq_nil hnormal
  obtain ⟨morpho, hmorpho⟩ := addressOf_morpho hd
  have hread := amount_read_back hdecimal hpositive
  rw [roundTrips_iff_compared hd hinverse]
  constructor
  · intro h
    obtain ⟨call, r, a, hcall, hr, -, hcompared⟩ := h
    obtain ⟨account', params', -, -, hfits, rfl⟩ := buildCall_eq_ok.mp hcall
    obtain rfl := Option.some.inj (hr.symm.trans readingOf_callOf)
    obtain ⟨-, -, hamount, -⟩ := builtReading_fields intent.action params'
      (BitVec.ofNat 256 (decimalValue intent.amount)) account'
    have htext := hcompared.amount
    rw [hamount, toNat_ofNat hfits] at htext
    exact ⟨hread.mp htext, hfits⟩
  · intro h
    have hnames := names_of_addressOf haccount
    have howner : sameText (getAddress account) c.owner :=
      (sameText_getAddress.mpr hnames).trans hsuits.owner
    obtain ⟨haction, hids, hamount, hbeneficiary, hreceiver, hcallback, hshares⟩ :=
      builtReading_fields intent.action params
        (BitVec.ofNat 256 (decimalValue intent.amount)) account
    refine ⟨_, _, morpho, buildCall_eq_ok.mpr ⟨account, params, haccount, hparams, h.fits, rfl⟩,
      readingOf_callOf, hmorpho, ?_, haction, hsuits.chain, hsuits.listed hmorpho, ?_, ?_, hshares,
      hcallback, ?_, fun _ => ?_, fun a ha _ => ?_⟩
    · rw [haction]
      exact hpermitted
    · rw [hids]
      exact hmarket
    · rw [hamount, toNat_ofNat h.fits]
      exact hread.mpr h.leading
    · rw [hbeneficiary]
      exact hnames
    · rw [hbeneficiary]
      exact howner
    · rw [hreceiver a ha]
      exact howner

end

end ContextLock.Execution.Morpho
