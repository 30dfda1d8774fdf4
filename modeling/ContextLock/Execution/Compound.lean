/-
  Subject:   The Compound execution adapter: intents, the calls that are built, decoded, validated.

  One function supplies collateral and repays: which of the two it is, the decoder reads from the
  asset.
-/
import ContextLock.Execution.Lending

namespace ContextLock.Execution.Compound

open Js Evm

/-! ## 1. Comet calls and intents -/

/-- A call of `COMET_ABI`; the functions that only read are known by their name. -/
inductive CometCall where
  | view (functionName : String)
  | supplyTo (dst asset : Address) (amount : Uint256)
  | supply (asset : Address) (amount : Uint256)
  | withdrawTo (to' asset : Address) (amount : Uint256)
  | withdraw (asset : Address) (amount : Uint256)

inductive CompoundActionKind where
  | COMPOUND_REPAY
  | COMPOUND_SUPPLY
  | COMPOUND_WITHDRAW
  deriving DecidableEq

def CompoundActionKind.text : CompoundActionKind → String
  | COMPOUND_REPAY => "COMPOUND_REPAY"
  | COMPOUND_SUPPLY => "COMPOUND_SUPPLY"
  | COMPOUND_WITHDRAW => "COMPOUND_WITHDRAW"

structure CompoundIntent where
  action : CompoundActionKind
  chainId : Js.Num
  account : String
  asset : String
  amount : String

/-- The Blueprint's permitted actions; `none` where they are not given. -/
structure CompoundConstraints extends ExecutionConstraints where
  permittedActions : Option (List CompoundActionKind)

def COMPOUND_HIGH_RISK_ACTIONS : List CompoundActionKind := [.COMPOUND_WITHDRAW]

structure CompoundDeployment where
  chainId : Nat
  comet : String
  baseToken : String

def COMPOUND_DEPLOYMENTS : List CompoundDeployment :=
  [⟨11155111, "0xAec1F48e02Cfb822Be958B68C7957156EB3F0b6e",
    "0x1c7D4B196Cb0C7B01d743Fbc6116a902379C7238"⟩,
   ⟨1, "0xc3d688B66703497DAA19211EEdff47f25384cdc3",
    "0xA0b86991c6218b36c1d19D4a2e9Eb0cE3606eB48"⟩]

def compoundDeploymentFor (chainId : Js.Num) : Except Thrown CompoundDeployment :=
  match COMPOUND_DEPLOYMENTS.find? fun d => Js.Num.int d.chainId = chainId with
  | some d => .ok d
  | none => .error (.other (s!"no verified Compound v3 market recorded for chain " ++
      s!"{chainId.text}; refusing to guess a Comet address"))

def baseOf (chainId : Js.Num) : Option String :=
  match compoundDeploymentFor chainId with
  | .ok d => some d.baseToken
  | .error _ => none

/-- A repay names the market's base asset. -/
def repayProblems (i : CompoundIntent) : List ValidationProblem :=
  match baseOf i.chainId with
  | some base => flag (i.action = .COMPOUND_REPAY ∧ isAddress i.asset = true ∧
      ¬ sameText i.asset base) ⟨"COMPOUND-I5", .CRITICAL, "asset",
        s!"a repay supplies the market's base asset {base}; {i.asset} is not it"⟩
  | none => []

/-- `normalizeIntent`, of an intent whose fields have their types: the problems it has. -/
def normalizeIntent (i : CompoundIntent) : List ValidationProblem :=
  addressProblems "COMPOUND-I1" "account" i.account ++
  addressProblems "COMPOUND-I2" "asset" i.asset ++
  amountProblems "COMPOUND" "base units" i.amount ++
  repayProblems i

/-! ## 2. Building -/

def callOf (action : CompoundActionKind) (account asset : Address) (amount : Uint256) : CometCall :=
  if action = .COMPOUND_WITHDRAW then .withdrawTo account asset amount
  else .supplyTo account asset amount

def buildCall (intent : CompoundIntent) : Except Thrown CometCall := do
  let account ← address intent.account
  let asset ← address intent.asset
  let amount ← uint256 (decimalValue intent.amount)
  return callOf intent.action account asset amount

/-- `buildTransaction` without a builder of its own, of an intent whose amount is in digits. -/
def buildTransaction (encodeFunctionData : CometCall → String) (intent : CompoundIntent) :
    Except Thrown LendingPrepared := do
  let d ← compoundDeploymentFor intent.chainId
  let call ← buildCall intent
  return {
    to' := d.comet
    data := encodeFunctionData call
    value := "0"
    chainId := intent.chainId
    summary := ⟨intent.action.text, intent.account, intent.amount⟩ }

/-! ## 3. Decoding -/

structure Reading where
  function : String
  actionType : CompoundActionKind
  beneficiary : Option Address
  asset : Address
  amount : Uint256
  receivesFunds : Bool
  creditsSender : Bool

def isBaseAsset (base : Option String) (asset : Address) : Bool :=
  base.any fun b => sameText (getAddress asset) b

def supplyAction (base : Option String) (asset : Address) : CompoundActionKind :=
  if isBaseAsset base asset then .COMPOUND_REPAY else .COMPOUND_SUPPLY

def readingOf (base : Option String) : CometCall → Except String Reading
  | .supplyTo dst asset amount =>
    .ok ⟨"supplyTo", supplyAction base asset, some dst, asset, amount, false, false⟩
  | .supply asset amount =>
    .ok ⟨"supply", supplyAction base asset, none, asset, amount, false, true⟩
  | .withdrawTo to' asset amount =>
    .ok ⟨"withdrawTo", .COMPOUND_WITHDRAW, some to', asset, amount, true, false⟩
  | .withdraw asset amount =>
    .ok ⟨"withdraw", .COMPOUND_WITHDRAW, none, asset, amount, true, true⟩
  | .view functionName => .error functionName

def flow (r : Reading) : AssetFlow where
  token := getAddress r.asset
  amount := toString r.amount.toNat
  from' := none
  to' := r.beneficiary.map getAddress

def metadataOf (prepared : LendingPrepared) (r : Reading) : List (String × Json) :=
  [("function", .str r.function), ("summary", prepared.summary.json),
   ("receivesFunds", .bool r.receivesFunds), ("creditsSender", .bool r.creditsSender),
   ("isBaseAsset", .bool (isBaseAsset (baseOf prepared.chainId) r.asset))]

def normalized (prepared : LendingPrepared) (target : String) (r : Reading) :
    NormalizedAction where
  chainId := prepared.chainId
  target := target
  calldata := prepared.data
  value := prepared.value
  actionType := r.actionType.text
  inputs := if r.receivesFunds then [] else [flow r]
  outputs := if r.receivesFunds then [flow r] else []
  recipient := r.beneficiary.map getAddress
  spender := none
  allowanceChanges := []
  minOutputs := []
  deadline := none
  providerMetadata := metadataOf prepared r

/-- `decodeTransaction`, over what viem decodes calldata to. -/
def decodeTransaction (decodeFunctionData : String → Except String CometCall)
    (prepared : LendingPrepared) : Except Thrown NormalizedAction :=
  match decodeFunctionData prepared.data with
  | .error reason => .error (.adapter "COMPOUND-NOT-COMET-CALL"
      s!"calldata is not a Comet call: {reason}")
  | .ok call =>
    match readingOf (baseOf prepared.chainId) call with
    | .ok r => (checksummed prepared.to').map fun target => normalized prepared target r
    | .error functionName => .error (.adapter "COMPOUND-UNSUPPORTED-FUNCTION"
        ("Comet function \"" ++ functionName ++ "\" is not decoded by this adapter; " ++
          "refusing to authorize a call it cannot fully read"))

/-! ## 4. Validating -/

def permitted (c : CompoundConstraints) : List CompoundActionKind :=
  c.permittedActions.getD [.COMPOUND_REPAY, .COMPOUND_SUPPLY]

def borrowNote (n : NormalizedAction) : String :=
  if n.actionType = "COMPOUND_WITHDRAW" ∧ metaFlag n "isBaseAsset" = true then
    " (a base-asset withdraw is a BORROW)" else ""

def flowProblems (n : NormalizedAction) (intent : CompoundIntent) : List ValidationProblem :=
  match flowOf n with
  | none => [⟨"COMPOUND-V-NO-FLOW", .CRITICAL, "inputs", "no asset flow could be decoded"⟩]
  | some f =>
    flag (¬ sameText f.token intent.asset) ⟨"COMPOUND-V-ASSET", .CRITICAL, "asset",
      s!"decoded asset {f.token} does not match the intended {intent.asset}"⟩ ++
    flag (f.amount ≠ intent.amount) ⟨"COMPOUND-V-AMOUNT", .CRITICAL, "amount",
      s!"decoded amount {f.amount} does not match the intended {intent.amount}"⟩

/-- The beneficiary: the account, and under a self-only policy the owner. -/
def beneficiaryProblems (n : NormalizedAction) (intent : CompoundIntent)
    (c : CompoundConstraints) : List ValidationProblem :=
  let dst := n.recipient.getD ""
  if dst = "" then
    [⟨"COMPOUND-V-NO-BENEFICIARY", .CRITICAL, "recipient", "no beneficiary could be decoded"⟩]
  else
    flag (¬ sameText dst intent.account) ⟨"COMPOUND-V-BENEFICIARY", .CRITICAL, "recipient",
      s!"decoded beneficiary {dst} does not match the intended {intent.account}"⟩ ++
    flag (c.allowedRecipients = .selfOnly ∧ ¬ sameText dst c.owner)
      ⟨"COMPOUND-V-BENEFICIARY-SELF", .CRITICAL, "recipient",
        s!"policy is self-only; decoded {dst}"⟩

/-- `validateTransaction`: the problems it reports. -/
def validateTransaction (n : NormalizedAction) (intent : CompoundIntent)
    (c : CompoundConstraints) : List ValidationProblem :=
  permittedProblems "COMPOUND" (COMPOUND_HIGH_RISK_ACTIONS.map CompoundActionKind.text)
    ((permitted c).map CompoundActionKind.text) n (borrowNote n) ++
  mismatchProblems "COMPOUND" n intent.action.text ++
  chainProblems "COMPOUND" n c.toExecutionConstraints ++
  targetProblems "COMPOUND-V-TARGET" "Comet" n c.toExecutionConstraints ++
  flag (metaFlag n "creditsSender" = true) ⟨"COMPOUND-V-SENDER-CREDITED", .CRITICAL, "recipient",
    "the two-argument form credits msg.sender (the executor), not the user; " ++
      "only supplyTo/withdrawTo are accepted"⟩ ++
  flowProblems n intent ++
  (if metaFlag n "creditsSender" then [] else beneficiaryProblems n intent c)

/-! ## 5. What an accepted call has been compared with -/

/-- The adapter decodes the transaction and reports no problem. -/
def Accepted (decodeFunctionData : String → Except String CometCall) (prepared : LendingPrepared)
    (intent : CompoundIntent) (c : CompoundConstraints) : Prop :=
  ∃ n, decodeTransaction decodeFunctionData prepared = .ok n ∧ validateTransaction n intent c = []

/-- The comparisons of `validateTransaction`. -/
structure Compared (prepared : LendingPrepared) (target : Address) (r : Reading)
    (intent : CompoundIntent) (c : CompoundConstraints) : Prop where
  permitted : r.actionType ∈ permitted c
  action : r.actionType = intent.action
  chain : Js.Num.strictEq prepared.chainId c.chainId = true
  target : listedIn c.allowedTargets (getAddress target)
  sender : r.creditsSender = false
  asset : Names intent.asset r.asset
  amount : intent.amount = toString r.amount.toNat
  beneficiary : ∃ b, r.beneficiary = some b ∧ Names intent.account b ∧
    (c.allowedRecipients = .selfOnly → sameText (getAddress b) c.owner)

section

variable {decodeFunctionData : String → Except String CometCall} {prepared : LendingPrepared}
  {intent : CompoundIntent} {c : CompoundConstraints} {r : Reading} {target : String}

theorem text_inj {a b : CompoundActionKind} (h : a.text = b.text) : a = b := by
  have hall : ∀ a b : CompoundActionKind, a.text = b.text → a = b := by
    intro a b
    cases a <;> cases b <;> decide
  exact hall a b h

theorem text_mem {a : CompoundActionKind} {actions : List CompoundActionKind} :
    a.text ∈ actions.map CompoundActionKind.text ↔ a ∈ actions :=
  List.mem_map_of_injective fun _ _ => text_inj

/-- **Only a call that can be read is decoded**, and as it is read. -/
theorem decodeTransaction_eq_ok {n : NormalizedAction} :
    decodeTransaction decodeFunctionData prepared = .ok n ↔
      ∃ call r a, decodeFunctionData prepared.data = .ok call ∧
        readingOf (baseOf prepared.chainId) call = .ok r ∧
        addressOf prepared.to' = some a ∧ n = normalized prepared (getAddress a) r := by
  unfold decodeTransaction
  cases decodeFunctionData prepared.data with
  | error reason => simp
  | ok call =>
    cases hr : readingOf (baseOf prepared.chainId) call with
    | error functionName => simp [hr]
    | ok r =>
      cases ha : addressOf prepared.to' with
      | none => simp [checksummed, ha, hr, Except.map]
      | some a => simp [checksummed, ha, hr, Except.map, eq_comm]

theorem flowOf_normalized : flowOf (normalized prepared target r) = some (flow r) := by
  unfold flowOf normalized
  cases r.receivesFunds <;> rfl

theorem flowProblems_eq_nil : flowProblems (normalized prepared target r) intent = [] ↔
    Names intent.asset r.asset ∧ intent.amount = toString r.amount.toNat := by
  unfold flowProblems
  rw [flowOf_normalized]
  simp only [List.append_eq_nil_iff, flag_eq_nil, ne_eq, not_not]
  exact and_congr sameText_getAddress eq_comm

theorem beneficiaryProblems_eq_nil :
    beneficiaryProblems (normalized prepared target r) intent c = [] ↔
      ∃ b, r.beneficiary = some b ∧ Names intent.account b ∧
        (c.allowedRecipients = .selfOnly → sameText (getAddress b) c.owner) := by
  have hrecipient : (normalized prepared target r).recipient = r.beneficiary.map getAddress := rfl
  simp only [beneficiaryProblems, hrecipient]
  cases r.beneficiary with
  | none => simp
  | some b =>
    simp only [Option.map_some, Option.getD_some, getAddress_ne_empty, if_false,
      List.append_eq_nil_iff, flag_eq_nil, not_not, not_and, sameText_getAddress (s := intent.account),
      Option.some.injEq, exists_eq_left']

/-- **The comparisons of `validateTransaction`**, all of them. -/
theorem validateTransaction_eq_nil {a : Address} :
    validateTransaction (normalized prepared (getAddress a) r) intent c = [] ↔
      Compared prepared a r intent c := by
  have htype : (normalized prepared (getAddress a) r).actionType = r.actionType.text := rfl
  have hchain : (normalized prepared (getAddress a) r).chainId = prepared.chainId := rfl
  have htarget : (normalized prepared (getAddress a) r).target = getAddress a := rfl
  have hsender : metaFlag (normalized prepared (getAddress a) r) "creditsSender" =
      r.creditsSender := rfl
  simp only [validateTransaction, permittedProblems, mismatchProblems, chainProblems,
    targetProblems, List.append_eq_nil_iff, flag_eq_nil, flowProblems_eq_nil, htype, hchain,
    htarget, hsender, text_mem, ne_eq, not_not, Bool.not_eq_false, Bool.not_eq_true]
  constructor
  · intro h
    obtain ⟨⟨⟨⟨⟨⟨hpermitted, haction⟩, hchain⟩, htarget⟩, hfalse⟩, hasset, hamount⟩, hlast⟩ := h
    rw [hfalse, if_neg (by decide), beneficiaryProblems_eq_nil] at hlast
    exact ⟨hpermitted, text_inj haction, hchain, htarget, hfalse, hasset, hamount, hlast⟩
  · intro h
    refine ⟨⟨⟨⟨⟨⟨h.permitted, congrArg CompoundActionKind.text h.action⟩, h.chain⟩, h.target⟩,
      h.sender⟩, h.asset, h.amount⟩, ?_⟩
    rw [h.sender, if_neg (by decide), beneficiaryProblems_eq_nil]
    exact h.beneficiary

/-- **What is accepted, and nothing else**: a call that agrees in all that is compared. -/
theorem accepted_iff : Accepted decodeFunctionData prepared intent c ↔
    ∃ call r a, decodeFunctionData prepared.data = .ok call ∧
      readingOf (baseOf prepared.chainId) call = .ok r ∧
      addressOf prepared.to' = some a ∧ Compared prepared a r intent c := by
  exact exists_decoded_iff (fun _ => decodeTransaction_eq_ok) fun _ _ => validateTransaction_eq_nil

end

/-! ## 6. Lawful calls -/

/-- What a call of the market does; the short forms credit the sender, whom no argument names. -/
def effectOf : CometCall → Option Effect
  | .supplyTo dst asset amount => some (.credit asset amount dst)
  | .withdrawTo to' asset amount => some (.credit asset amount to')
  | .supply _ _ => none
  | .withdraw _ _ => none
  | .view _ => none

/-- The call does what the intent asks for, and no more than the constraints permit. -/
def DoesAsAsked (decodeFunctionData : String → Except String CometCall)
    (prepared : LendingPrepared) (intent : CompoundIntent) (c : CompoundConstraints) : Prop :=
  ∃ call e, decodeFunctionData prepared.data = .ok call ∧ effectOf call = some e ∧
    Lawful e ⟨[intent.asset], intent.amount, intent.account⟩ c.toExecutionConstraints prepared.value

section

variable {decodeFunctionData : String → Except String CometCall} {prepared : LendingPrepared}
  {intent : CompoundIntent} {c : CompoundConstraints} {r : Reading} {target : Address}

theorem effectOf_of_reading {base : Option String} {call : CometCall} {b : Address}
    (hr : readingOf base call = .ok r) (hb : r.beneficiary = some b) :
    effectOf call = some (.credit r.asset r.amount b) := by
  cases call with
  | view functionName => cases hr
  | supplyTo dst asset amount | withdrawTo to' asset amount =>
    obtain rfl := Except.ok.inj hr
    obtain rfl := Option.some.inj hb
    rfl
  | supply asset amount | withdraw asset amount =>
    obtain rfl := Except.ok.inj hr
    cases hb

/-- What has been compared leaves the value open, and whether a list has the account. -/
theorem lawful_of_compared {base : Option String} {call : CometCall}
    (hr : readingOf base call = .ok r) (h : Compared prepared target r intent c) :
    ∃ e, effectOf call = some e ∧ (Lawful e ⟨[intent.asset], intent.amount, intent.account⟩
      c.toExecutionConstraints prepared.value ↔ weiOf prepared.value = some 0 ∧
        ∀ recipients, c.allowedRecipients = .listed recipients →
          listedIn recipients intent.account) := by
  have hasset : listedIn [intent.asset] (getAddress r.asset) :=
    listedIn_singleton.mpr (sameText_getAddress.mpr h.asset)
  have hamount : weiOf intent.amount = some r.amount.toNat := by
    rw [h.amount, weiOf_toString]
  obtain ⟨b, hb, haccount, hself⟩ := h.beneficiary
  have hsame : sameText (getAddress b) intent.account := sameText_getAddress.mpr haccount
  have hpermits : Permits c.toExecutionConstraints (getAddress b) ↔
      ∀ recipients, c.allowedRecipients = .listed recipients →
        listedIn recipients intent.account := by
    rw [permits_iff, and_iff_right hself]
    exact forall₂_congr fun recipients _ => listedIn_congr hsame
  refine ⟨_, effectOf_of_reading hr hb, ?_⟩
  rw [lawful_credit_iff, hpermits]
  constructor
  · exact fun hlawful => ⟨hlawful.2.2.2.2, hlawful.2.2.2.1⟩
  · exact fun hopen => ⟨hasset, hamount, haccount, hopen.2, hopen.1⟩

/-- **An accepted call is lawful iff no value is attached to it, and a list of recipients has
    the account.** -/
theorem lawful_iff (h : Accepted decodeFunctionData prepared intent c) :
    DoesAsAsked decodeFunctionData prepared intent c ↔ weiOf prepared.value = some 0 ∧
      ∀ recipients, c.allowedRecipients = .listed recipients →
        listedIn recipients intent.account := by
  obtain ⟨call, r, a, hcall, hr, -, hcompared⟩ := accepted_iff.mp h
  obtain ⟨e, he, hiff⟩ := lawful_of_compared hr hcompared
  exact (exists_effect_iff hcall he).trans hiff

end

/-! ## 7. Built, decoded, validated -/

/-- What the builder makes is decoded as the action of the intent, with its amount, and accepted. -/
def RoundTrips (encodeFunctionData : CometCall → String)
    (decodeFunctionData : String → Except String CometCall) (intent : CompoundIntent)
    (c : CompoundConstraints) : Prop :=
  ∃ prepared n, buildTransaction encodeFunctionData intent = .ok prepared ∧
    decodeTransaction decodeFunctionData prepared = .ok n ∧ validateTransaction n intent c = [] ∧
    n.actionType = intent.action.text ∧ ∃ f, flowOf n = some f ∧ f.amount = intent.amount

/-- The intents that are recognised: none that supplies the base asset as collateral, none whose
    amount has a leading zero or does not fit. -/
structure Recognised (intent : CompoundIntent) : Prop where
  collateral : intent.action = .COMPOUND_SUPPLY →
    ∀ base ∈ baseOf intent.chainId, ¬ sameText intent.asset base
  leading : intent.amount.toList.head? ≠ some '0'
  fits : decimalValue intent.amount < 2 ^ 256

section

variable {encodeFunctionData : CometCall → String}
  {decodeFunctionData : String → Except String CometCall} {intent : CompoundIntent}
  {c : CompoundConstraints} {d : CompoundDeployment}

theorem addressOf_comet (hd : compoundDeploymentFor intent.chainId = .ok d) :
    ∃ a, addressOf d.comet = some a := by
  unfold compoundDeploymentFor at hd
  split at hd
  · rename_i d' hfind
    obtain rfl := Except.ok.inj hd
    have hall : ∀ d ∈ COMPOUND_DEPLOYMENTS, isAddress d.comet = true := by decide
    exact (isAddress_iff _).mp (hall _ (List.mem_of_find?_eq_some hfind))
  · cases hd

theorem baseOf_eq (hd : compoundDeploymentFor intent.chainId = .ok d) :
    baseOf intent.chainId = some d.baseToken := by
  unfold baseOf
  rw [hd]

def builtReading (intent : CompoundIntent) (account asset : Address) (amount : Uint256) : Reading :=
  if intent.action = .COMPOUND_WITHDRAW then
    ⟨"withdrawTo", .COMPOUND_WITHDRAW, some account, asset, amount, true, false⟩
  else ⟨"supplyTo", supplyAction (baseOf intent.chainId) asset, some account, asset, amount, false,
    false⟩

theorem readingOf_callOf {account asset : Address} {amount : Uint256} :
    readingOf (baseOf intent.chainId) (callOf intent.action account asset amount) =
      .ok (builtReading intent account asset amount) := by
  unfold callOf builtReading
  split <;> rfl

def preparedOf (encodeFunctionData : CometCall → String) (intent : CompoundIntent)
    (d : CompoundDeployment) (call : CometCall) : LendingPrepared :=
  ⟨d.comet, encodeFunctionData call, "0", intent.chainId,
    ⟨intent.action.text, intent.account, intent.amount⟩⟩

theorem buildCall_eq_ok {call : CometCall} : buildCall intent = .ok call ↔
    ∃ account asset, addressOf intent.account = some account ∧
      addressOf intent.asset = some asset ∧ decimalValue intent.amount < 2 ^ 256 ∧
      call = callOf intent.action account asset (BitVec.ofNat 256 (decimalValue intent.amount)) := by
  simp only [buildCall, bind_eq_ok, address_eq_ok, uint256_eq_ok, pure_eq_ok]
  constructor
  · intro h
    obtain ⟨account, haccount, asset, hasset, amount, ⟨hfits, rfl⟩, hcall⟩ := h
    exact ⟨account, asset, haccount, hasset, hfits, hcall⟩
  · intro h
    obtain ⟨account, asset, haccount, hasset, hfits, hcall⟩ := h
    exact ⟨account, haccount, asset, hasset, _, ⟨hfits, rfl⟩, hcall⟩

theorem buildTransaction_eq_ok (hd : compoundDeploymentFor intent.chainId = .ok d)
    {prepared : LendingPrepared} : buildTransaction encodeFunctionData intent = .ok prepared ↔
      ∃ call, buildCall intent = .ok call ∧
        prepared = preparedOf encodeFunctionData intent d call := by
  simp only [buildTransaction, bind_eq_ok, pure_eq_ok, hd, Except.ok.injEq, exists_eq_left']
  rfl

theorem roundTrips_iff_compared (hd : compoundDeploymentFor intent.chainId = .ok d)
    (hinverse : ∀ call, buildCall intent = .ok call →
      decodeFunctionData (encodeFunctionData call) = .ok call) :
    RoundTrips encodeFunctionData decodeFunctionData intent c ↔
      ∃ call r a, buildCall intent = .ok call ∧ readingOf (baseOf intent.chainId) call = .ok r ∧
        addressOf d.comet = some a ∧
        Compared (preparedOf encodeFunctionData intent d call) a r intent c := by
  constructor
  · intro h
    obtain ⟨prepared, n, hbuild, hdecode, hvalid, -⟩ := h
    obtain ⟨call, hcall, rfl⟩ := (buildTransaction_eq_ok hd).mp hbuild
    obtain ⟨call', r, a, hcall', hr, ha, rfl⟩ := decodeTransaction_eq_ok.mp hdecode
    obtain rfl := Except.ok.inj ((hinverse call hcall).symm.trans hcall')
    exact ⟨call, r, a, hcall, hr, ha, validateTransaction_eq_nil.mp hvalid⟩
  · intro h
    obtain ⟨call, r, a, hcall, hr, ha, hcompared⟩ := h
    exact ⟨_, _, (buildTransaction_eq_ok hd).mpr ⟨call, hcall, rfl⟩,
      decodeTransaction_eq_ok.mpr ⟨call, r, a, hinverse call hcall, hr, ha, rfl⟩,
      validateTransaction_eq_nil.mpr hcompared,
      congrArg CompoundActionKind.text hcompared.action, flow r,
      flowOf_normalized, hcompared.amount.symm⟩

theorem normalizeIntent_eq_nil (h : normalizeIntent intent = []) :
    (∃ account, addressOf intent.account = some account) ∧
      (∃ asset, addressOf intent.asset = some asset) ∧
      (isDecimal intent.amount = true ∧ decimalValue intent.amount ≠ 0) ∧
      (intent.action = .COMPOUND_REPAY →
        ∀ base ∈ baseOf intent.chainId, sameText intent.asset base) := by
  simp only [normalizeIntent, List.append_eq_nil_iff, addressProblems_eq_nil,
    amountProblems_eq_nil] at h
  obtain ⟨⟨⟨haccount, hasset⟩, hamount⟩, hrepay⟩ := h
  refine ⟨haccount, hasset, hamount, fun hrep base hbase => ?_⟩
  unfold repayProblems at hrepay
  rw [hbase] at hrepay
  have hnot := flag_eq_nil.mp hrepay
  exact not_not.mp fun hne => hnot ⟨hrep, (isAddress_iff _).mpr hasset, hne⟩

/-- The action that is read is the intent's, but where the base asset is supplied as collateral. -/
theorem actionType_builtReading (account : Address) (amount : Uint256) {asset : Address}
    (hasset : addressOf intent.asset = some asset)
    (hd : compoundDeploymentFor intent.chainId = .ok d)
    (hrepay : intent.action = .COMPOUND_REPAY → sameText intent.asset d.baseToken) :
    (builtReading intent account asset amount).actionType = intent.action ↔
      (intent.action = .COMPOUND_SUPPLY → ¬ sameText intent.asset d.baseToken) := by
  have hsame : sameText (getAddress asset) intent.asset :=
    sameText_getAddress.mpr (names_of_addressOf hasset)
  have hbase : isBaseAsset (baseOf intent.chainId) asset = true ↔
      sameText intent.asset d.baseToken := by
    rw [baseOf_eq hd]
    unfold isBaseAsset
    rw [Option.any_some, decide_eq_true_eq]
    unfold sameText at hsame ⊢
    rw [hsame]
  unfold builtReading supplyAction
  cases haction : intent.action with
  | COMPOUND_WITHDRAW => simp
  | COMPOUND_REPAY => simp [hbase, hrepay haction]
  | COMPOUND_SUPPLY =>
    by_cases hs : sameText intent.asset d.baseToken
    · simp [hbase, hs]
    · simp [hbase, hs]

/-- **Which intents go round**: those that are recognised. -/
theorem roundTrips_iff (hnormal : normalizeIntent intent = [])
    (hd : compoundDeploymentFor intent.chainId = .ok d)
    (hsuits : Suits c.toExecutionConstraints intent.chainId intent.account d.comet)
    (hpermitted : intent.action ∈ permitted c)
    (hinverse : ∀ call, buildCall intent = .ok call →
      decodeFunctionData (encodeFunctionData call) = .ok call) :
    RoundTrips encodeFunctionData decodeFunctionData intent c ↔ Recognised intent := by
  obtain ⟨⟨account, haccount⟩, ⟨asset, hasset⟩, ⟨hdecimal, hpositive⟩, hrepay⟩ :=
    normalizeIntent_eq_nil hnormal
  obtain ⟨comet, hcomet⟩ := addressOf_comet hd
  have hread := amount_read_back hdecimal hpositive
  have hbase := baseOf_eq hd
  have htype := actionType_builtReading account (BitVec.ofNat 256 (decimalValue intent.amount))
    hasset hd fun hrep => hrepay hrep _ hbase
  have hcollateral : (intent.action = .COMPOUND_SUPPLY →
      ∀ base ∈ baseOf intent.chainId, ¬ sameText intent.asset base) ↔
      (intent.action = .COMPOUND_SUPPLY → ¬ sameText intent.asset d.baseToken) := by
    rw [hbase]
    simp
  rw [roundTrips_iff_compared hd hinverse]
  constructor
  · intro h
    obtain ⟨call, r, a, hcall, hr, -, hcompared⟩ := h
    obtain ⟨account', asset', haccount', hasset', hfits, rfl⟩ := buildCall_eq_ok.mp hcall
    obtain rfl := Option.some.inj (haccount.symm.trans haccount')
    obtain rfl := Option.some.inj (hasset.symm.trans hasset')
    obtain rfl := Except.ok.inj (hr.symm.trans readingOf_callOf)
    have hamount := hcompared.amount
    have hval : (builtReading intent account asset
        (BitVec.ofNat 256 (decimalValue intent.amount))).amount.toNat =
        decimalValue intent.amount := by
      unfold builtReading
      split <;> exact toNat_ofNat hfits
    rw [hval] at hamount
    exact ⟨hcollateral.mpr (htype.mp hcompared.action), hread.mp hamount, hfits⟩
  · intro h
    have haction := htype.mpr (hcollateral.mp h.collateral)
    have hnames := names_of_addressOf haccount
    refine ⟨_, _, comet, buildCall_eq_ok.mpr ⟨account, asset, haccount, hasset, h.fits, rfl⟩,
      readingOf_callOf, hcomet, ?_, haction, hsuits.chain, hsuits.listed hcomet, ?_, ?_, ?_, account,
      ?_, hnames, fun _ => (sameText_getAddress.mpr hnames).trans hsuits.owner⟩
    · rw [haction]
      exact hpermitted
    · unfold builtReading
      split <;> rfl
    · have heq : (builtReading intent account asset
          (BitVec.ofNat 256 (decimalValue intent.amount))).asset = asset := by
        unfold builtReading
        split <;> rfl
      rw [heq]
      exact names_of_addressOf hasset
    · have hval : (builtReading intent account asset
          (BitVec.ofNat 256 (decimalValue intent.amount))).amount.toNat =
          decimalValue intent.amount := by
        unfold builtReading
        split <;> exact toNat_ofNat h.fits
      rw [hval]
      exact hread.mpr h.leading
    · unfold builtReading
      split <;> rfl

end

end ContextLock.Execution.Compound
