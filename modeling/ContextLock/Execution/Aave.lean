/-
  Subject:   The Aave execution adapter: intents, the calls that are built, decoded and validated.
-/
import ContextLock.Execution.Lending

namespace ContextLock.Execution.Aave

open Js Evm

/-! ## 1. Pool calls and intents -/

/-- A call of `AAVE_POOL_ABI`. -/
inductive PoolCall where
  | getUserAccountData (user : Address)
  | supply (asset : Address) (amount : Uint256) (onBehalfOf : Address) (referralCode : BitVec 16)
  | repay (asset : Address) (amount interestRateMode : Uint256) (onBehalfOf : Address)
  | withdraw (asset : Address) (amount : Uint256) (to' : Address)
  | borrow (asset : Address) (amount interestRateMode : Uint256) (referralCode : BitVec 16)
      (onBehalfOf : Address)
  | setUserUseReserveAsCollateral (asset : Address) (useAsCollateral : Bool)

inductive AaveActionKind where
  | SUPPLY
  | REPAY
  | WITHDRAW
  | BORROW
  | SET_COLLATERAL
  deriving DecidableEq

def AaveActionKind.text : AaveActionKind → String
  | SUPPLY => "SUPPLY"
  | REPAY => "REPAY"
  | WITHDRAW => "WITHDRAW"
  | BORROW => "BORROW"
  | SET_COLLATERAL => "SET_COLLATERAL"

structure AaveIntent where
  action : AaveActionKind
  chainId : Js.Num
  account : String
  asset : String
  amount : String
  interestRateMode : Option Js.Num

/-- The Blueprint's permitted actions; `none` where they are not given. -/
structure AaveConstraints extends ExecutionConstraints where
  permittedActions : Option (List AaveActionKind)

def HIGH_RISK_ACTIONS : List AaveActionKind := [.WITHDRAW, .BORROW, .SET_COLLATERAL]

def INTEREST_RATE_MODE_VARIABLE : Nat := 2

structure AaveDeployment where
  chainId : Nat
  pool : String

def AAVE_DEPLOYMENTS : List AaveDeployment :=
  [⟨11155111, "0x6Ae43d3271ff6888e7Fc43Fd7321a503ff738951"⟩]

def aaveDeploymentFor (chainId : Js.Num) : Except Thrown AaveDeployment :=
  match AAVE_DEPLOYMENTS.find? fun d => Js.Num.int d.chainId = chainId with
  | some d => .ok d
  | none => .error (.other (s!"no verified Aave deployment recorded for chain {chainId.text}; " ++
      "refusing to guess a Pool address"))

/-- `normalizeIntent`, of an intent whose fields have their types: the problems it has. -/
def normalizeIntent (i : AaveIntent) : List ValidationProblem :=
  addressProblems "AAVE-I1" "account" i.account ++
  addressProblems "AAVE-I2" "asset" i.asset ++
  amountProblems "AAVE" "base units" i.amount ++
  flag (i.interestRateMode = some (.int 1))
    ⟨"AAVE-I5", .HIGH, "interestRateMode", "stable rate mode is deprecated; use variable (2)"⟩

/-! ## 2. Building -/

/-- `BigInt(intent.interestRateMode ?? 2)`. -/
def rateMode : Option Js.Num → Except Thrown Int
  | none => .ok 2
  | some (.int m) => .ok m
  | some m => .error (.other (s!"The number {m.text} cannot be converted to a BigInt " ++
      "because it is not an integer"))

def rateArgument (mode : Int) : Except Thrown Uint256 :=
  if mode < 0 then .error (.outOfRange (toString mode)) else uint256 mode.toNat

def callOf (action : AaveActionKind) (asset account : Address) (amount : Nat) (mode : Int) :
    Except Thrown PoolCall :=
  match action with
  | .SUPPLY => do
    let amount ← uint256 amount
    return .supply asset amount account 0
  | .REPAY => do
    let amount ← uint256 amount
    let mode ← rateArgument mode
    return .repay asset amount mode account
  | .WITHDRAW => do
    let amount ← uint256 amount
    return .withdraw asset amount account
  | .BORROW => do
    let amount ← uint256 amount
    let mode ← rateArgument mode
    return .borrow asset amount mode 0 account
  | .SET_COLLATERAL => .ok (.setUserUseReserveAsCollateral asset true)

def buildCall (intent : AaveIntent) : Except Thrown PoolCall := do
  let mode ← rateMode intent.interestRateMode
  let asset ← address intent.asset
  let account ← address intent.account
  callOf intent.action asset account (decimalValue intent.amount) mode

/-- `buildTransaction` without a builder of its own, of an intent whose amount is in digits. -/
def buildTransaction (encodeFunctionData : PoolCall → String) (intent : AaveIntent) :
    Except Thrown LendingPrepared := do
  let d ← aaveDeploymentFor intent.chainId
  let call ← buildCall intent
  return {
    to' := d.pool
    data := encodeFunctionData call
    value := "0"
    chainId := intent.chainId
    summary := ⟨intent.action.text, intent.account, intent.amount⟩ }

/-! ## 3. Decoding -/

structure Reading where
  function : String
  actionType : AaveActionKind
  asset : Address
  amount : Uint256
  beneficiary : Option Address
  receivesFunds : Bool
  interestRateMode : Option Uint256

/-- `to` of a withdrawal and `onBehalfOf` of the others stand in different places. -/
def readingOf : PoolCall → Option Reading
  | .supply asset amount onBehalfOf _ =>
    some ⟨"supply", .SUPPLY, asset, amount, some onBehalfOf, false, none⟩
  | .repay asset amount mode onBehalfOf =>
    some ⟨"repay", .REPAY, asset, amount, some onBehalfOf, false, some mode⟩
  | .withdraw asset amount to' =>
    some ⟨"withdraw", .WITHDRAW, asset, amount, some to', true, none⟩
  | .borrow asset amount mode _ onBehalfOf =>
    some ⟨"borrow", .BORROW, asset, amount, some onBehalfOf, true, some mode⟩
  | .setUserUseReserveAsCollateral asset _ =>
    some ⟨"setUserUseReserveAsCollateral", .SET_COLLATERAL, asset, 0, none, false, none⟩
  | .getUserAccountData _ => none

def flow (r : Reading) : AssetFlow where
  token := getAddress r.asset
  amount := toString r.amount.toNat
  from' := none
  to' := r.beneficiary.map getAddress

def metadataOf (prepared : LendingPrepared) (r : Reading) : List (String × Json) :=
  [("function", .str r.function), ("summary", prepared.summary.json),
   ("receivesFunds", .bool r.receivesFunds)] ++
  (r.interestRateMode.toList.map fun m => ("interestRateMode", .str (toString m.toNat)))

def normalized (prepared : LendingPrepared) (target : String) (r : Reading) :
    NormalizedAction where
  chainId := prepared.chainId
  target := target
  calldata := prepared.data
  value := prepared.value
  actionType := r.actionType.text
  inputs := if r.receivesFunds then [] else [flow r]
  outputs := if r.receivesFunds then [flow r] else []
  recipient := r.beneficiary.map getAddress
  spender := none
  allowanceChanges := []
  minOutputs := []
  deadline := none
  providerMetadata := metadataOf prepared r

/-- `decodeTransaction`, over what viem decodes calldata to. -/
def decodeTransaction (decodeFunctionData : String → Except String PoolCall)
    (prepared : LendingPrepared) : Except Thrown NormalizedAction :=
  match decodeFunctionData prepared.data with
  | .error reason => .error (.adapter "AAVE-NOT-POOL-CALL"
      s!"calldata is not an Aave Pool call: {reason}")
  | .ok call =>
    match readingOf call with
    | some r => (checksummed prepared.to').map fun target => normalized prepared target r
    | none => .error (.adapter "AAVE-UNSUPPORTED-FUNCTION"
        ("Pool function \"getUserAccountData\" is not decoded by this adapter; " ++
          "refusing to authorize a call it cannot fully read"))

/-! ## 4. Validating -/

def permitted (c : AaveConstraints) : List AaveActionKind :=
  c.permittedActions.getD [.SUPPLY, .REPAY]

def flowProblems (n : NormalizedAction) (intent : AaveIntent) : List ValidationProblem :=
  match flowOf n with
  | none => flag (n.actionType ≠ "SET_COLLATERAL")
      ⟨"AAVE-V-NO-FLOW", .CRITICAL, "inputs", "no asset flow could be decoded"⟩
  | some f =>
    flag (¬ sameText f.token intent.asset) ⟨"AAVE-V-ASSET", .CRITICAL, "asset",
      s!"decoded asset {f.token} does not match the intended {intent.asset}"⟩ ++
    flag (f.amount ≠ intent.amount) ⟨"AAVE-V-AMOUNT", .CRITICAL, "amount",
      s!"decoded amount {f.amount} does not match the intended {intent.amount}"⟩

/-- The beneficiary against the policy: the owner, or one of the list. -/
def policyProblems (beneficiary : String) (c : AaveConstraints) : List ValidationProblem :=
  match c.allowedRecipients with
  | .selfOnly => flag (¬ sameText beneficiary c.owner)
      ⟨"AAVE-V-BENEFICIARY-SELF", .CRITICAL, "recipient",
        s!"policy is self-only; decoded {beneficiary}"⟩
  | .listed recipients => flag (¬ listedIn recipients beneficiary)
      ⟨"AAVE-V-BENEFICIARY-ALLOW", .CRITICAL, "recipient",
        s!"decoded beneficiary {beneficiary} is not allow-listed"⟩

def beneficiaryProblems (n : NormalizedAction) (intent : AaveIntent) (c : AaveConstraints) :
    List ValidationProblem :=
  let beneficiary := n.recipient.getD ""
  if n.actionType = "SET_COLLATERAL" then []
  else if beneficiary = "" then
    [⟨"AAVE-V-NO-BENEFICIARY", .CRITICAL, "recipient", "no beneficiary could be decoded"⟩]
  else
    flag (¬ sameText beneficiary intent.account) ⟨"AAVE-V-BENEFICIARY", .CRITICAL, "recipient",
      s!"decoded beneficiary {beneficiary} does not match the intended {intent.account}"⟩ ++
    policyProblems beneficiary c

def rateProblems (n : NormalizedAction) : List ValidationProblem :=
  let mode := metaText n "interestRateMode"
  flag (mode ≠ none ∧ mode ≠ some (toString INTEREST_RATE_MODE_VARIABLE))
    ⟨"AAVE-V-RATE-MODE", .HIGH, "interestRateMode",
      "decoded interest rate mode " ++ mode.getD "" ++ "; only variable (2) is constructed"⟩

def allowanceProblems (n : NormalizedAction) (c : AaveConstraints) (a : AllowanceChange) :
    List ValidationProblem :=
  unlimitedProblems "AAVE" c.toExecutionConstraints a ++
  flag (∃ cap ∈ c.maxApprovalAmount, exceeds a.amount cap = true)
    ⟨"AAVE-V-APPROVAL-SIZE", .CRITICAL, "allowanceChanges",
      s!"approval {a.amount} exceeds the cap " ++ c.maxApprovalAmount.getD ""⟩ ++
  flag (¬ sameText a.spender n.target) ⟨"AAVE-V-APPROVAL-SPENDER", .CRITICAL, "allowanceChanges",
    s!"approval spender {a.spender} is not the Pool"⟩

/-- `validateTransaction`: the problems it reports. -/
def validateTransaction (n : NormalizedAction) (intent : AaveIntent) (c : AaveConstraints) :
    List ValidationProblem :=
  permittedProblems "AAVE" (HIGH_RISK_ACTIONS.map AaveActionKind.text)
    ((permitted c).map AaveActionKind.text) n "" ++
  mismatchProblems "AAVE" n intent.action.text ++
  chainProblems "AAVE" n c.toExecutionConstraints ++
  targetProblems "AAVE-V-POOL" "Pool" n c.toExecutionConstraints ++
  flowProblems n intent ++
  beneficiaryProblems n intent c ++
  rateProblems n ++
  n.allowanceChanges.flatMap (allowanceProblems n c)

/-! ## 5. What an accepted call has been compared with -/

/-- The adapter decodes the transaction and reports no problem. -/
def Accepted (decodeFunctionData : String → Except String PoolCall) (prepared : LendingPrepared)
    (intent : AaveIntent) (c : AaveConstraints) : Prop :=
  ∃ n, decodeTransaction decodeFunctionData prepared = .ok n ∧ validateTransaction n intent c = []

/-- The comparisons of `validateTransaction`. -/
structure Compared (prepared : LendingPrepared) (target : Address) (r : Reading)
    (intent : AaveIntent) (c : AaveConstraints) : Prop where
  permitted : r.actionType ∈ permitted c
  action : r.actionType = intent.action
  chain : Js.Num.strictEq prepared.chainId c.chainId = true
  target : listedIn c.allowedTargets (getAddress target)
  asset : Names intent.asset r.asset
  amount : intent.amount = toString r.amount.toNat
  beneficiary : r.actionType = .SET_COLLATERAL ∨ ∃ b, r.beneficiary = some b ∧
    Names intent.account b ∧ Permits c.toExecutionConstraints (getAddress b)
  rate : ∀ m ∈ r.interestRateMode, m.toNat = 2

section

variable {decodeFunctionData : String → Except String PoolCall} {prepared : LendingPrepared}
  {intent : AaveIntent} {c : AaveConstraints} {r : Reading} {target : String}

theorem text_inj {a b : AaveActionKind} (h : a.text = b.text) : a = b := by
  have hall : ∀ a b : AaveActionKind, a.text = b.text → a = b := by
    intro a b
    cases a <;> cases b <;> decide
  exact hall a b h

theorem text_mem {a : AaveActionKind} {actions : List AaveActionKind} :
    a.text ∈ actions.map AaveActionKind.text ↔ a ∈ actions :=
  List.mem_map_of_injective fun _ _ => text_inj

/-- **Only a call that can be read is decoded**, and as it is read. -/
theorem decodeTransaction_eq_ok {n : NormalizedAction} :
    decodeTransaction decodeFunctionData prepared = .ok n ↔
      ∃ call r a, decodeFunctionData prepared.data = .ok call ∧ readingOf call = some r ∧
        addressOf prepared.to' = some a ∧ n = normalized prepared (getAddress a) r := by
  unfold decodeTransaction
  cases decodeFunctionData prepared.data with
  | error reason => simp
  | ok call =>
    cases hr : readingOf call with
    | none => simp [hr]
    | some r =>
      cases ha : addressOf prepared.to' with
      | none => simp [checksummed, ha, hr, Except.map]
      | some a => simp [checksummed, ha, hr, Except.map, eq_comm]

theorem flowOf_normalized : flowOf (normalized prepared target r) = some (flow r) := by
  unfold flowOf normalized
  cases r.receivesFunds <;> rfl

theorem flowProblems_eq_nil : flowProblems (normalized prepared target r) intent = [] ↔
    Names intent.asset r.asset ∧ intent.amount = toString r.amount.toNat := by
  unfold flowProblems
  rw [flowOf_normalized]
  simp only [List.append_eq_nil_iff, flag_eq_nil, ne_eq, not_not]
  exact and_congr sameText_getAddress eq_comm

theorem policyProblems_eq_nil {s : String} :
    policyProblems s c = [] ↔ Permits c.toExecutionConstraints s := by
  unfold policyProblems Permits
  cases c.allowedRecipients with
  | selfOnly => simp
  | listed recipients => simp

theorem beneficiaryProblems_eq_nil :
    beneficiaryProblems (normalized prepared target r) intent c = [] ↔
      r.actionType = .SET_COLLATERAL ∨ ∃ b, r.beneficiary = some b ∧
        Names intent.account b ∧ Permits c.toExecutionConstraints (getAddress b) := by
  have htype : (normalized prepared target r).actionType = "SET_COLLATERAL" ↔
      r.actionType = .SET_COLLATERAL := ⟨fun h => text_inj h, fun h => congrArg AaveActionKind.text h⟩
  have hrecipient : (normalized prepared target r).recipient = r.beneficiary.map getAddress := rfl
  simp only [beneficiaryProblems, htype, hrecipient]
  by_cases hset : r.actionType = .SET_COLLATERAL
  · simp [hset]
  · cases r.beneficiary with
    | none => simp [hset]
    | some b =>
      simp only [hset, Option.map_some, Option.getD_some, getAddress_ne_empty, if_false,
        List.append_eq_nil_iff, flag_eq_nil, not_not, policyProblems_eq_nil, sameText_getAddress,
        false_or, Option.some.injEq, exists_eq_left']

theorem rateProblems_eq_nil : rateProblems (normalized prepared target r) = [] ↔
    ∀ m ∈ r.interestRateMode, m.toNat = 2 := by
  have hmeta : metaText (normalized prepared target r) "interestRateMode" =
      r.interestRateMode.map fun m => toString m.toNat := by
    unfold metaText normalized metadataOf
    cases r.interestRateMode <;> rfl
  unfold rateProblems
  rw [flag_eq_nil, hmeta]
  cases r.interestRateMode with
  | none => simp
  | some m =>
    have htwo : toString m.toNat = toString INTEREST_RATE_MODE_VARIABLE ↔ m.toNat = 2 :=
      ⟨fun h => toString_nat_inj h, fun h => by rw [h]; rfl⟩
    simp only [Option.map_some, ne_eq, reduceCtorEq, not_false_eq_true, true_and, not_not,
      Option.some.injEq, htwo, Option.mem_def, forall_eq']

/-- **The comparisons of `validateTransaction`**, all of them. -/
theorem validateTransaction_eq_nil {a : Address} :
    validateTransaction (normalized prepared (getAddress a) r) intent c = [] ↔
      Compared prepared a r intent c := by
  have htype : (normalized prepared (getAddress a) r).actionType = r.actionType.text := rfl
  have hchain : (normalized prepared (getAddress a) r).chainId = prepared.chainId := rfl
  have htarget : (normalized prepared (getAddress a) r).target = getAddress a := rfl
  have hallow : (normalized prepared (getAddress a) r).allowanceChanges = [] := rfl
  simp only [validateTransaction, permittedProblems, mismatchProblems, chainProblems,
    targetProblems, List.append_eq_nil_iff, flag_eq_nil, flowProblems_eq_nil,
    beneficiaryProblems_eq_nil, rateProblems_eq_nil, htype, hchain, htarget, hallow, text_mem,
    ne_eq, not_not, List.flatMap_nil, Bool.not_eq_false]
  constructor
  · intro h
    obtain ⟨⟨⟨⟨⟨⟨⟨hpermitted, haction⟩, hchain⟩, htarget⟩, hasset, hamount⟩, hbeneficiary⟩,
      hrate⟩, -⟩ := h
    exact ⟨hpermitted, text_inj haction, hchain, htarget, hasset, hamount, hbeneficiary, hrate⟩
  · intro h
    exact ⟨⟨⟨⟨⟨⟨⟨h.permitted, congrArg _ h.action⟩, h.chain⟩, h.target⟩, h.asset, h.amount⟩,
      h.beneficiary⟩, h.rate⟩, trivial⟩

/-- **What is accepted, and nothing else**: a call that agrees in all that is compared. -/
theorem accepted_iff : Accepted decodeFunctionData prepared intent c ↔
    ∃ call r a, decodeFunctionData prepared.data = .ok call ∧ readingOf call = some r ∧
      addressOf prepared.to' = some a ∧ Compared prepared a r intent c := by
  exact exists_decoded_iff (fun _ => decodeTransaction_eq_ok) fun _ _ => validateTransaction_eq_nil

end

/-! ## 6. Lawful calls -/

/-- What a call of the pool does. -/
def effectOf : PoolCall → Option Effect
  | .supply asset amount onBehalfOf _ => some (.credit asset amount onBehalfOf)
  | .repay asset amount _ onBehalfOf => some (.credit asset amount onBehalfOf)
  | .withdraw asset amount to' => some (.credit asset amount to')
  | .borrow asset amount _ _ onBehalfOf => some (.credit asset amount onBehalfOf)
  | .setUserUseReserveAsCollateral asset _ => some ⟨getAddress asset, some 0, none, [], false⟩
  | .getUserAccountData _ => none

/-- The call does what the intent asks for, and no more than the constraints permit. -/
def DoesAsAsked (decodeFunctionData : String → Except String PoolCall)
    (prepared : LendingPrepared) (intent : AaveIntent) (c : AaveConstraints) : Prop :=
  ∃ call e, decodeFunctionData prepared.data = .ok call ∧ effectOf call = some e ∧
    Lawful e ⟨[intent.asset], intent.amount, intent.account⟩ c.toExecutionConstraints prepared.value

section

variable {decodeFunctionData : String → Except String PoolCall} {prepared : LendingPrepared}
  {intent : AaveIntent} {c : AaveConstraints} {r : Reading} {target : Address}

theorem effectOf_of_reading {call : PoolCall} (hr : readingOf call = some r) :
    (r.actionType = .SET_COLLATERAL ∧ r.amount = 0 ∧
      effectOf call = some ⟨getAddress r.asset, some 0, none, [], false⟩) ∨
    (r.actionType ≠ .SET_COLLATERAL ∧
      ∃ b, r.beneficiary = some b ∧ effectOf call = some (.credit r.asset r.amount b)) := by
  cases call with
  | getUserAccountData user => cases hr
  | setUserUseReserveAsCollateral asset useAsCollateral =>
    obtain rfl := Option.some.inj hr
    exact Or.inl ⟨rfl, rfl, rfl⟩
  | supply asset amount onBehalfOf referralCode =>
    obtain rfl := Option.some.inj hr
    exact Or.inr ⟨(by decide : AaveActionKind.SUPPLY ≠ .SET_COLLATERAL), _, rfl, rfl⟩
  | repay asset amount interestRateMode onBehalfOf =>
    obtain rfl := Option.some.inj hr
    exact Or.inr ⟨(by decide : AaveActionKind.REPAY ≠ .SET_COLLATERAL), _, rfl, rfl⟩
  | withdraw asset amount to' =>
    obtain rfl := Option.some.inj hr
    exact Or.inr ⟨(by decide : AaveActionKind.WITHDRAW ≠ .SET_COLLATERAL), _, rfl, rfl⟩
  | borrow asset amount interestRateMode referralCode onBehalfOf =>
    obtain rfl := Option.some.inj hr
    exact Or.inr ⟨(by decide : AaveActionKind.BORROW ≠ .SET_COLLATERAL), _, rfl, rfl⟩

theorem lawful_of_compared {call : PoolCall} (hr : readingOf call = some r)
    (h : Compared prepared target r intent c) :
    ∃ e, effectOf call = some e ∧ (Lawful e ⟨[intent.asset], intent.amount, intent.account⟩
      c.toExecutionConstraints prepared.value ↔ weiOf prepared.value = some 0) := by
  have hasset : listedIn [intent.asset] (getAddress r.asset) :=
    listedIn_singleton.mpr (sameText_getAddress.mpr h.asset)
  have hamount : weiOf intent.amount = some r.amount.toNat := by
    rw [h.amount, weiOf_toString]
  rcases effectOf_of_reading hr with ⟨-, hzero, heffect⟩ | ⟨hset, b, hb, heffect⟩
  · refine ⟨_, heffect, fun hlawful => hlawful.value, fun hvalue =>
      ⟨hasset, ?_, fun s hs => (by cases hs), fun s hs => (by cases hs), hvalue⟩⟩
    rw [hamount, hzero]
    rfl
  · obtain hfalse | ⟨b', hb', haccount, hpermits⟩ := h.beneficiary
    · exact absurd hfalse hset
    · obtain rfl : b = b' := Option.some.inj (hb.symm.trans hb')
      refine ⟨_, heffect, fun hlawful => (lawful_credit_iff.mp hlawful).2.2.2.2, fun hvalue =>
        lawful_credit_iff.mpr ⟨hasset, hamount, haccount, hpermits, hvalue⟩⟩

/-- **An accepted call is lawful iff no value is attached to it.** -/
theorem lawful_iff (h : Accepted decodeFunctionData prepared intent c) :
    DoesAsAsked decodeFunctionData prepared intent c ↔ weiOf prepared.value = some 0 := by
  obtain ⟨call, r, a, hcall, hr, -, hcompared⟩ := accepted_iff.mp h
  obtain ⟨e, he, hiff⟩ := lawful_of_compared hr hcompared
  exact (exists_effect_iff hcall he).trans hiff

end

/-! ## 7. Built, decoded, validated -/

/-- The arguments of the call fit their types. -/
def Fits (action : AaveActionKind) (amount : Nat) (mode : Int) : Prop :=
  match action with
  | .SUPPLY | .WITHDRAW => amount < 2 ^ 256
  | .REPAY | .BORROW => amount < 2 ^ 256 ∧ 0 ≤ mode ∧ mode.toNat < 2 ^ 256
  | .SET_COLLATERAL => True

/-- The call of an action, of arguments that fit. -/
def builtCall (action : AaveActionKind) (asset account : Address) (amount : Nat) (mode : Int) :
    PoolCall :=
  let amount := BitVec.ofNat 256 amount
  let mode := BitVec.ofNat 256 mode.toNat
  match action with
  | .SUPPLY => .supply asset amount account 0
  | .REPAY => .repay asset amount mode account
  | .WITHDRAW => .withdraw asset amount account
  | .BORROW => .borrow asset amount mode 0 account
  | .SET_COLLATERAL => .setUserUseReserveAsCollateral asset true

def builtReading (action : AaveActionKind) (asset account : Address) (amount : Nat) (mode : Int) :
    Reading :=
  let amount := BitVec.ofNat 256 amount
  let mode := BitVec.ofNat 256 mode.toNat
  match action with
  | .SUPPLY => ⟨"supply", .SUPPLY, asset, amount, some account, false, none⟩
  | .REPAY => ⟨"repay", .REPAY, asset, amount, some account, false, some mode⟩
  | .WITHDRAW => ⟨"withdraw", .WITHDRAW, asset, amount, some account, true, none⟩
  | .BORROW => ⟨"borrow", .BORROW, asset, amount, some account, true, some mode⟩
  | .SET_COLLATERAL =>
    ⟨"setUserUseReserveAsCollateral", .SET_COLLATERAL, asset, 0, none, false, none⟩

section

variable {action : AaveActionKind} {asset account : Address} {amount : Nat} {mode : Int}

theorem rateArgument_eq_ok {w : Uint256} : rateArgument mode = .ok w ↔
    (0 ≤ mode ∧ mode.toNat < 2 ^ 256) ∧ w = BitVec.ofNat 256 mode.toNat := by
  unfold rateArgument
  split
  · rename_i h
    exact ⟨fun herror => (by cases herror), fun hw => absurd hw.1.1 (by omega)⟩
  · rename_i h
    have hnonneg : 0 ≤ mode := by omega
    rw [uint256_eq_ok, and_iff_right hnonneg]

/-- **A call is built iff its arguments fit.** -/
theorem callOf_eq_ok {call : PoolCall} : callOf action asset account amount mode = .ok call ↔
    Fits action amount mode ∧ call = builtCall action asset account amount mode := by
  cases action with
  | SUPPLY | WITHDRAW =>
    simp only [callOf, bind_eq_ok, uint256_eq_ok, pure_eq_ok, Fits, builtCall, and_assoc,
      exists_and_left, exists_eq_left]
  | REPAY | BORROW =>
    simp only [callOf, bind_eq_ok, uint256_eq_ok, rateArgument_eq_ok, pure_eq_ok, Fits, builtCall,
      and_assoc, exists_and_left, exists_eq_left]
  | SET_COLLATERAL =>
    simp only [callOf, Fits, builtCall, true_and, Except.ok.injEq]
    exact eq_comm

theorem fits_amount (h : action ≠ .SET_COLLATERAL) (hfits : Fits action amount mode) :
    amount < 2 ^ 256 := by
  cases action with
  | SET_COLLATERAL => exact absurd rfl h
  | SUPPLY => exact hfits
  | WITHDRAW => exact hfits
  | REPAY => exact hfits.1
  | BORROW => exact hfits.1

theorem fits_of (hamount : amount < 2 ^ 256)
    (hrate : action = .REPAY ∨ action = .BORROW → mode = 2) : Fits action amount mode := by
  cases action with
  | SET_COLLATERAL => trivial
  | SUPPLY => exact hamount
  | WITHDRAW => exact hamount
  | REPAY =>
    rw [hrate (Or.inl rfl)]
    exact ⟨hamount, by decide, by decide⟩
  | BORROW =>
    rw [hrate (Or.inr rfl)]
    exact ⟨hamount, by decide, by decide⟩

theorem readingOf_builtCall : readingOf (builtCall action asset account amount mode) =
    some (builtReading action asset account amount mode) := by
  cases action <;> rfl

theorem actionType_builtReading :
    (builtReading action asset account amount mode).actionType = action := by
  cases action <;> rfl

theorem asset_builtReading : (builtReading action asset account amount mode).asset = asset := by
  cases action <;> rfl

theorem beneficiary_builtReading (h : action ≠ .SET_COLLATERAL) :
    (builtReading action asset account amount mode).beneficiary = some account := by
  cases action with
  | SET_COLLATERAL => exact absurd rfl h
  | SUPPLY => rfl
  | REPAY => rfl
  | WITHDRAW => rfl
  | BORROW => rfl

theorem amount_builtReading (hfits : Fits action amount mode) :
    (builtReading action asset account amount mode).amount.toNat =
      if action = .SET_COLLATERAL then 0 else amount := by
  cases action with
  | SET_COLLATERAL => rfl
  | SUPPLY => exact toNat_ofNat hfits
  | WITHDRAW => exact toNat_ofNat hfits
  | REPAY | BORROW => exact toNat_ofNat hfits.1

theorem rate_builtReading (hfits : Fits action amount mode) :
    (∀ m ∈ (builtReading action asset account amount mode).interestRateMode, m.toNat = 2) ↔
      (action = .REPAY ∨ action = .BORROW → mode = 2) := by
  have hread : 0 ≤ mode ∧ mode.toNat < 2 ^ 256 →
      ((BitVec.ofNat 256 mode.toNat).toNat = 2 ↔ mode = 2) := by
    intro h
    rw [toNat_ofNat h.2]
    omega
  cases action with
  | SUPPLY => simp [builtReading]
  | WITHDRAW => simp [builtReading]
  | SET_COLLATERAL => simp [builtReading]
  | REPAY =>
    have hiff := hread hfits.2
    simp only [builtReading, Option.mem_def, Option.some.injEq, forall_eq', hiff, true_or,
      true_imp_iff]
  | BORROW =>
    have hiff := hread hfits.2
    simp only [builtReading, Option.mem_def, Option.some.injEq, forall_eq', hiff, or_true,
      true_imp_iff]

end

/-- What the builder makes is decoded as the action of the intent, with its amount, and accepted. -/
def RoundTrips (encodeFunctionData : PoolCall → String)
    (decodeFunctionData : String → Except String PoolCall) (intent : AaveIntent)
    (c : AaveConstraints) : Prop :=
  ∃ prepared n, buildTransaction encodeFunctionData intent = .ok prepared ∧
    decodeTransaction decodeFunctionData prepared = .ok n ∧ validateTransaction n intent c = [] ∧
    n.actionType = intent.action.text ∧ ∃ f, flowOf n = some f ∧ f.amount = intent.amount

/-- The intents that are recognised: none that sets a collateral flag, none whose amount has a
    leading zero or does not fit, none of another rate mode where a rate mode is read. -/
structure Recognised (intent : AaveIntent) : Prop where
  action : intent.action ≠ .SET_COLLATERAL
  leading : intent.amount.toList.head? ≠ some '0'
  fits : decimalValue intent.amount < 2 ^ 256
  rate : ∃ m, intent.interestRateMode.getD (.int 2) = .int m ∧
    (intent.action = .REPAY ∨ intent.action = .BORROW → m = 2)

section

variable {encodeFunctionData : PoolCall → String}
  {decodeFunctionData : String → Except String PoolCall} {intent : AaveIntent}
  {c : AaveConstraints} {d : AaveDeployment}

theorem rateMode_eq_ok {mode : Option Js.Num} {m : Int} :
    rateMode mode = .ok m ↔ mode.getD (.int 2) = .int m := by
  cases mode with
  | none => simp [rateMode]
  | some n => cases n <;> simp [rateMode]

theorem addressOf_pool (hd : aaveDeploymentFor intent.chainId = .ok d) :
    ∃ a, addressOf d.pool = some a := by
  unfold aaveDeploymentFor at hd
  split at hd
  · rename_i d' hfind
    obtain rfl := Except.ok.inj hd
    have hmem := List.mem_of_find?_eq_some hfind
    have hall : ∀ d ∈ AAVE_DEPLOYMENTS, ∃ a, addressOf d.pool = some a := by
      intro d hd
      obtain rfl := List.mem_singleton.mp hd
      exact (isAddress_iff _).mp (by decide)
    exact hall _ hmem
  · cases hd

theorem buildCall_eq_ok {call : PoolCall} : buildCall intent = .ok call ↔
    ∃ mode asset account, rateMode intent.interestRateMode = .ok mode ∧
      addressOf intent.asset = some asset ∧ addressOf intent.account = some account ∧
      callOf intent.action asset account (decimalValue intent.amount) mode = .ok call := by
  simp only [buildCall, bind_eq_ok, address_eq_ok]
  constructor
  · intro h
    obtain ⟨mode, hmode, asset, hasset, account, haccount, hcall⟩ := h
    exact ⟨mode, asset, account, hmode, hasset, haccount, hcall⟩
  · intro h
    obtain ⟨mode, asset, account, hmode, hasset, haccount, hcall⟩ := h
    exact ⟨mode, hmode, asset, hasset, account, haccount, hcall⟩

def preparedOf (encodeFunctionData : PoolCall → String) (intent : AaveIntent)
    (d : AaveDeployment) (call : PoolCall) : LendingPrepared :=
  ⟨d.pool, encodeFunctionData call, "0", intent.chainId,
    ⟨intent.action.text, intent.account, intent.amount⟩⟩

theorem buildTransaction_eq_ok (hd : aaveDeploymentFor intent.chainId = .ok d)
    {prepared : LendingPrepared} : buildTransaction encodeFunctionData intent = .ok prepared ↔
      ∃ call, buildCall intent = .ok call ∧
        prepared = preparedOf encodeFunctionData intent d call := by
  simp only [buildTransaction, bind_eq_ok, pure_eq_ok, hd, Except.ok.injEq, exists_eq_left']
  rfl

theorem roundTrips_iff_compared (hd : aaveDeploymentFor intent.chainId = .ok d)
    (hinverse : ∀ call, buildCall intent = .ok call →
      decodeFunctionData (encodeFunctionData call) = .ok call) :
    RoundTrips encodeFunctionData decodeFunctionData intent c ↔
      ∃ call r a, buildCall intent = .ok call ∧ readingOf call = some r ∧
        addressOf d.pool = some a ∧
        Compared (preparedOf encodeFunctionData intent d call) a r intent c := by
  constructor
  · intro h
    obtain ⟨prepared, n, hbuild, hdecode, hvalid, -⟩ := h
    obtain ⟨call, hcall, rfl⟩ := (buildTransaction_eq_ok hd).mp hbuild
    obtain ⟨call', r, a, hcall', hr, ha, rfl⟩ := decodeTransaction_eq_ok.mp hdecode
    obtain rfl := Except.ok.inj ((hinverse call hcall).symm.trans hcall')
    exact ⟨call, r, a, hcall, hr, ha, validateTransaction_eq_nil.mp hvalid⟩
  · intro h
    obtain ⟨call, r, a, hcall, hr, ha, hcompared⟩ := h
    refine ⟨_, _, (buildTransaction_eq_ok hd).mpr ⟨call, hcall, rfl⟩,
      decodeTransaction_eq_ok.mpr ⟨call, r, a, hinverse call hcall, hr, ha, rfl⟩,
      validateTransaction_eq_nil.mpr hcompared, congrArg AaveActionKind.text hcompared.action, flow r,
      flowOf_normalized, hcompared.amount.symm⟩

theorem normalizeIntent_eq_nil (h : normalizeIntent intent = []) :
    (∃ account, addressOf intent.account = some account) ∧
      (∃ asset, addressOf intent.asset = some asset) ∧
      isDecimal intent.amount = true ∧ decimalValue intent.amount ≠ 0 := by
  simp only [normalizeIntent, List.append_eq_nil_iff, addressProblems_eq_nil,
    amountProblems_eq_nil] at h
  exact ⟨h.1.1.1, h.1.1.2, h.1.2⟩

/-- **Which intents go round**: those that are recognised. -/
theorem roundTrips_iff (hnormal : normalizeIntent intent = [])
    (hd : aaveDeploymentFor intent.chainId = .ok d)
    (hsuits : Suits c.toExecutionConstraints intent.chainId intent.account d.pool)
    (hpermitted : intent.action ∈ permitted c)
    (hinverse : ∀ call, buildCall intent = .ok call →
      decodeFunctionData (encodeFunctionData call) = .ok call) :
    RoundTrips encodeFunctionData decodeFunctionData intent c ↔ Recognised intent := by
  obtain ⟨⟨account, haccount⟩, ⟨asset, hasset⟩, hdecimal, hpositive⟩ :=
    normalizeIntent_eq_nil hnormal
  obtain ⟨pool, hpool⟩ := addressOf_pool hd
  have hread := amount_read_back hdecimal hpositive
  rw [roundTrips_iff_compared hd hinverse]
  constructor
  · intro h
    obtain ⟨call, r, a, hcall, hr, -, hcompared⟩ := h
    obtain ⟨mode, asset', account', hmode, -, -, hcall⟩ := buildCall_eq_ok.mp hcall
    obtain ⟨hfits, rfl⟩ := callOf_eq_ok.mp hcall
    obtain rfl := Option.some.inj (hr.symm.trans readingOf_builtCall)
    have hamount := hcompared.amount
    have hset : intent.action ≠ .SET_COLLATERAL := by
      intro hset
      rw [amount_builtReading hfits, if_pos hset] at hamount
      exact hpositive (by rw [hamount]; decide)
    rw [amount_builtReading hfits, if_neg hset] at hamount
    refine ⟨hset, hread.mp hamount, ?_, mode, rateMode_eq_ok.mp hmode,
      (rate_builtReading hfits).mp hcompared.rate⟩
    exact fits_amount hset hfits
  · intro h
    obtain ⟨mode, hmode, hrate⟩ := h.rate
    have hfits : Fits intent.action (decimalValue intent.amount) mode := fits_of h.fits hrate
    refine ⟨_, _, pool, buildCall_eq_ok.mpr ⟨mode, asset, account, rateMode_eq_ok.mpr hmode, hasset,
      haccount, callOf_eq_ok.mpr ⟨hfits, rfl⟩⟩, readingOf_builtCall, hpool, ?_⟩
    refine ⟨?_, actionType_builtReading, hsuits.chain, hsuits.listed hpool, ?_, ?_, Or.inr
      ⟨account, beneficiary_builtReading h.action, names_of_addressOf haccount,
        hsuits.permits (names_of_addressOf haccount)⟩, (rate_builtReading hfits).mpr hrate⟩
    · rw [actionType_builtReading]
      exact hpermitted
    · rw [asset_builtReading]
      exact names_of_addressOf hasset
    · rw [amount_builtReading hfits, if_neg h.action]
      exact hread.mpr h.leading

end

end ContextLock.Execution.Aave
