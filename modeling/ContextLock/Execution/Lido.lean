/-
  Subject:   The Lido execution adapter: a stake is its value; transfers and approvals are decoded
             so that they can be refused.
-/
import ContextLock.Execution.Lending

namespace ContextLock.Execution.Lido

open Js Evm

/-! ## 1. Calls and intents -/

/-- A call of `STETH_ABI`; the functions that only read are known by their name. -/
inductive StethCall where
  | view (functionName : String)
  | submit (referral : Address)
  | transfer (to' : Address) (amount : Uint256)
  | approve (spender : Address) (amount : Uint256)

inductive LidoActionKind where
  | LIDO_STAKE
  | LIDO_TRANSFER
  | LIDO_APPROVE
  deriving DecidableEq

def LidoActionKind.text : LidoActionKind → String
  | LIDO_STAKE => "LIDO_STAKE"
  | LIDO_TRANSFER => "LIDO_TRANSFER"
  | LIDO_APPROVE => "LIDO_APPROVE"

/-- The account is the vault the stETH is minted to: the sender, whom no argument names. -/
structure LidoIntent where
  action : LidoActionKind
  chainId : Js.Num
  account : String
  amount : String

/-- The Blueprint's permitted actions; `none` where they are not given. -/
structure LidoConstraints extends ExecutionConstraints where
  permittedActions : Option (List LidoActionKind)

def LIDO_HIGH_RISK_ACTIONS : List LidoActionKind := [.LIDO_TRANSFER, .LIDO_APPROVE]

def zeroAddress : String := "0x0000000000000000000000000000000000000000"

/-- `normalizeIntent`, of an intent whose fields have their types: the problems it has. -/
def normalizeIntent (i : LidoIntent) : List ValidationProblem :=
  addressProblems "LIDO-I1" "account" i.account ++ amountProblems "LIDO" "wei" i.amount

/-! ## 2. Decoding -/

def baseAction (prepared : LendingPrepared) (target : String) (action : LidoActionKind)
    (metadata : List (String × Json)) : NormalizedAction where
  chainId := prepared.chainId
  target := target
  calldata := prepared.data
  value := prepared.value
  actionType := action.text
  inputs := []
  outputs := []
  recipient := none
  spender := none
  allowanceChanges := []
  minOutputs := []
  deadline := none
  providerMetadata := ("summary", prepared.summary.json) :: metadata

/-- The action of a call; `none` of one that is not decoded. The ETH of a stake is the value. -/
def normalized (prepared : LendingPrepared) (target : String) : StethCall → Option NormalizedAction
  | .submit referral => some
      { baseAction prepared target .LIDO_STAKE
          [("function", .str "submit"), ("referral", .str (getAddress referral)),
           ("mintsTo", .str "msg.sender")] with
        inputs := [⟨"ETH", prepared.value, none, none⟩]
        outputs := [⟨target, prepared.value, none, none⟩] }
  | .transfer to' amount => some
      { baseAction prepared target .LIDO_TRANSFER
          [("function", .str "transfer"), ("receivesFunds", .bool true)] with
        outputs := [⟨target, toString amount.toNat, none, some (getAddress to')⟩]
        recipient := some (getAddress to') }
  | .approve spender amount => some
      { baseAction prepared target .LIDO_APPROVE [("function", .str "approve")] with
        spender := some (getAddress spender)
        allowanceChanges := [⟨target, getAddress spender, toString amount.toNat,
          2 ^ 255 ≤ amount.toNat⟩] }
  | .view _ => none

def StethCall.functionName : StethCall → String
  | view functionName => functionName
  | submit _ => "submit"
  | transfer _ _ => "transfer"
  | approve _ _ => "approve"

/-- The action of a call at a checksummed target, or the refusal of one that is not decoded. -/
def decodeAt (prepared : LendingPrepared) (call : StethCall) (target : String) :
    Except Thrown NormalizedAction :=
  match normalized prepared target call with
  | some n => .ok n
  | none => .error (.adapter "LIDO-UNSUPPORTED-FUNCTION"
      ("stETH function \"" ++ call.functionName ++ "\" is not decoded by this adapter; " ++
        "refusing to authorize a call it cannot fully read"))

/-- `decodeTransaction`, over what viem decodes calldata to. -/
def decodeTransaction (decodeFunctionData : String → Except String StethCall)
    (prepared : LendingPrepared) : Except Thrown NormalizedAction :=
  match decodeFunctionData prepared.data with
  | .error reason => .error (.adapter "LIDO-NOT-STETH-CALL"
      s!"calldata is not an stETH call: {reason}")
  | .ok call => (checksummed prepared.to').bind (decodeAt prepared call)

/-! ## 3. Validating -/

def permitted (c : LidoConstraints) : List LidoActionKind := c.permittedActions.getD [.LIDO_STAKE]

/-- A stake is the intended value, names no third party, and is minted to the owner where the
    policy is self-only. -/
def stakeProblems (n : NormalizedAction) (intent : LidoIntent) (c : LidoConstraints) :
    List ValidationProblem :=
  let referral := (metaText n "referral").getD ""
  flag (n.value ≠ intent.amount) ⟨"LIDO-V-VALUE", .CRITICAL, "value",
    s!"transaction value {n.value} does not match the intended stake {intent.amount}"⟩ ++
  flag (referral ≠ "" ∧ toLowerCase referral ≠ zeroAddress)
    ⟨"LIDO-V-REFERRAL", .CRITICAL, "referral",
      s!"referral {referral} is set; a stake names no third party"⟩ ++
  flag (c.allowedRecipients = .selfOnly ∧ ¬ sameText intent.account c.owner)
    ⟨"LIDO-V-BENEFICIARY-SELF", .CRITICAL, "recipient",
      s!"policy is self-only; the stake credits {intent.account}, not {c.owner}"⟩

/-- `validateTransaction`: the problems it reports. -/
def validateTransaction (n : NormalizedAction) (intent : LidoIntent) (c : LidoConstraints) :
    List ValidationProblem :=
  permittedProblems "LIDO" (LIDO_HIGH_RISK_ACTIONS.map LidoActionKind.text)
    ((permitted c).map LidoActionKind.text) n "" ++
  mismatchProblems "LIDO" n intent.action.text ++
  chainProblems "LIDO" n c.toExecutionConstraints ++
  targetProblems "LIDO-V-TARGET" "stETH" n c.toExecutionConstraints ++
  (if n.actionType = "LIDO_STAKE" then stakeProblems n intent c else []) ++
  n.allowanceChanges.flatMap (unlimitedProblems "LIDO" c.toExecutionConstraints)

/-! ## 4. What an accepted call has been compared with -/

/-- The adapter decodes the transaction and reports no problem. -/
def Accepted (decodeFunctionData : String → Except String StethCall) (prepared : LendingPrepared)
    (intent : LidoIntent) (c : LidoConstraints) : Prop :=
  ∃ n, decodeTransaction decodeFunctionData prepared = .ok n ∧ validateTransaction n intent c = []

def CallCompared (prepared : LendingPrepared) (intent : LidoIntent) (c : LidoConstraints) :
    StethCall → Prop
  | .submit referral => prepared.value = intent.amount ∧ referral = 0 ∧
      (c.allowedRecipients = .selfOnly → sameText intent.account c.owner)
  | .transfer _ _ => True
  | .approve _ amount => 2 ^ 255 ≤ amount.toNat → c.allowUnlimitedApprovals = true
  | .view _ => False

def actionOf : StethCall → LidoActionKind
  | .transfer _ _ => .LIDO_TRANSFER
  | .approve _ _ => .LIDO_APPROVE
  | .submit _ => .LIDO_STAKE
  | .view _ => .LIDO_STAKE

/-- The comparisons of `validateTransaction`. -/
structure Compared (prepared : LendingPrepared) (target : Address) (call : StethCall)
    (intent : LidoIntent) (c : LidoConstraints) : Prop where
  permitted : actionOf call ∈ permitted c
  action : actionOf call = intent.action
  chain : Js.Num.strictEq prepared.chainId c.chainId = true
  target : listedIn c.allowedTargets (getAddress target)
  call : CallCompared prepared intent c call

section

variable {decodeFunctionData : String → Except String StethCall} {prepared : LendingPrepared}
  {intent : LidoIntent} {c : LidoConstraints} {call : StethCall}

theorem text_inj {a b : LidoActionKind} (h : a.text = b.text) : a = b := by
  have hall : ∀ a b : LidoActionKind, a.text = b.text → a = b := by
    intro a b
    cases a <;> cases b <;> decide
  exact hall a b h

theorem text_mem {a : LidoActionKind} {actions : List LidoActionKind} :
    a.text ∈ actions.map LidoActionKind.text ↔ a ∈ actions :=
  List.mem_map_of_injective fun _ _ => text_inj

/-- **Only a call that can be read is decoded**, and as it is read. -/
theorem decodeTransaction_eq_ok {n : NormalizedAction} :
    decodeTransaction decodeFunctionData prepared = .ok n ↔
      ∃ call a, decodeFunctionData prepared.data = .ok call ∧ addressOf prepared.to' = some a ∧
        normalized prepared (getAddress a) call = some n := by
  unfold decodeTransaction
  cases decodeFunctionData prepared.data with
  | error reason => simp
  | ok call =>
    cases ha : addressOf prepared.to' with
    | none => simp [checksummed, ha, Except.bind]
    | some a =>
      cases hn : normalized prepared (getAddress a) call with
      | none | some m => simp [checksummed, ha, hn, Except.bind, decodeAt]

theorem referral_iff {referral : Address} :
    (getAddress referral ≠ "" ∧ toLowerCase (getAddress referral) ≠ zeroAddress) ↔
      referral ≠ 0 := by
  have hzero : zeroAddress = hexText 20 (0 : Address).toNat := by decide
  rw [toLowerCase_getAddress, hzero, and_iff_right (getAddress_ne_empty referral)]
  constructor
  · intro hne heq
    rw [heq] at hne
    exact hne rfl
  · intro hne heq
    exact hne (BitVec.eq_of_toNat_eq (hexText_inj referral.isLt (0 : Address).isLt heq))

theorem stakeProblems_eq_nil {referral : Address} {n : NormalizedAction}
    (hvalue : n.value = prepared.value)
    (hmeta : metaText n "referral" = some (getAddress referral)) :
    stakeProblems n intent c = [] ↔ prepared.value = intent.amount ∧ referral = 0 ∧
      (c.allowedRecipients = .selfOnly → sameText intent.account c.owner) := by
  unfold stakeProblems
  rw [hmeta, hvalue, Option.getD_some]
  simp only [List.append_eq_nil_iff, flag_eq_nil, referral_iff, not_not, not_and, ne_eq]
  rw [and_assoc]

theorem validateTransaction_eq_nil {a : Address} {n : NormalizedAction}
    (hn : normalized prepared (getAddress a) call = some n) :
    validateTransaction n intent c = [] ↔ Compared prepared a call intent c := by
  have hcommon : n.actionType = (actionOf call).text ∧ n.chainId = prepared.chainId ∧
      n.target = getAddress a ∧ call.functionName = call.functionName := by
    cases call with
    | view functionName => cases hn
    | submit referral | transfer to' amount | approve spender amount =>
      obtain rfl := Option.some.inj hn
      exact ⟨rfl, rfl, rfl, rfl⟩
  have hcall : (if n.actionType = "LIDO_STAKE" then stakeProblems n intent c else []) = [] ∧
      n.allowanceChanges.flatMap (unlimitedProblems "LIDO" c.toExecutionConstraints) = [] ↔
        CallCompared prepared intent c call := by
    cases call with
    | view functionName => cases hn
    | submit referral =>
      obtain rfl := Option.some.inj hn
      exact (and_iff_left rfl).trans (stakeProblems_eq_nil rfl rfl)
    | transfer to' amount =>
      obtain rfl := Option.some.inj hn
      exact ⟨fun _ => trivial, fun _ => ⟨rfl, rfl⟩⟩
    | approve spender amount =>
      obtain rfl := Option.some.inj hn
      rw [and_iff_right (by rfl), List.flatMap_eq_nil_iff]
      simp [unlimitedProblems, CallCompared]
  simp only [validateTransaction, permittedProblems, mismatchProblems, chainProblems,
    targetProblems, List.append_eq_nil_iff, flag_eq_nil, hcommon.1, hcommon.2.1, hcommon.2.2.1,
    text_mem, ne_eq, not_not, Bool.not_eq_false]
  rw [hcommon.1] at hcall
  constructor
  · intro h
    obtain ⟨⟨⟨⟨⟨hpermitted, haction⟩, hchain⟩, htarget⟩, hstake⟩, hallow⟩ := h
    exact ⟨hpermitted, text_inj haction, hchain, htarget, hcall.mp ⟨hstake, hallow⟩⟩
  · intro h
    obtain ⟨hstake, hallow⟩ := hcall.mpr h.call
    exact ⟨⟨⟨⟨⟨h.permitted, congrArg LidoActionKind.text h.action⟩, h.chain⟩, h.target⟩, hstake⟩,
      hallow⟩

/-- **What is accepted, and nothing else**: a call that agrees in all that is compared. -/
theorem accepted_iff : Accepted decodeFunctionData prepared intent c ↔
    ∃ call a, decodeFunctionData prepared.data = .ok call ∧ addressOf prepared.to' = some a ∧
      Compared prepared a call intent c := by
  constructor
  · intro h
    obtain ⟨n, hn, hvalid⟩ := h
    obtain ⟨call, a, hcall, ha, hn⟩ := decodeTransaction_eq_ok.mp hn
    exact ⟨call, a, hcall, ha, (validateTransaction_eq_nil hn).mp hvalid⟩
  · intro h
    obtain ⟨call, a, hcall, ha, hcompared⟩ := h
    cases hn : normalized prepared (getAddress a) call with
    | some n => exact ⟨n, decodeTransaction_eq_ok.mpr ⟨call, a, hcall, ha, hn⟩,
        (validateTransaction_eq_nil hn).mpr hcompared⟩
    | none =>
      cases call with
      | view functionName => exact absurd hcompared.call id
      | submit referral => cases hn
      | transfer to' amount => cases hn
      | approve spender amount => cases hn

end

/-! ## 5. Lawful calls -/

/-- What a call of the token at a target does. A stake is credited to the account that sends it. -/
def effectOf (prepared : LendingPrepared) (target : Address) (account : String) :
    StethCall → Option Effect
  | .submit _ => some ⟨getAddress target, weiOf prepared.value, some account, [account], true⟩
  | .transfer to' amount => some (⟨getAddress target, some amount.toNat, some (getAddress to'),
      [getAddress to'], false⟩)
  | .approve spender amount => some (⟨getAddress target, some amount.toNat, none,
      [getAddress spender], false⟩)
  | .view _ => none

/-- The call does what the intent asks for of the allow-listed token, and no more than the
    constraints permit. -/
def DoesAsAsked (decodeFunctionData : String → Except String StethCall)
    (prepared : LendingPrepared) (intent : LidoIntent) (c : LidoConstraints) : Prop :=
  ∃ call target e, decodeFunctionData prepared.data = .ok call ∧
    addressOf prepared.to' = some target ∧ effectOf prepared target intent.account call = some e ∧
    Lawful e ⟨c.allowedTargets, intent.amount, intent.account⟩ c.toExecutionConstraints
      prepared.value

/-- What nothing compares: whether a list has the account of a stake; all of a transfer; all of
    an approval but that it is unlimited. -/
def CallInOrder (prepared : LendingPrepared) (intent : LidoIntent) (c : LidoConstraints) :
    StethCall → Prop
  | .submit _ => ∀ recipients, c.allowedRecipients = .listed recipients →
      listedIn recipients intent.account
  | .transfer to' amount => weiOf prepared.value = some 0 ∧
      weiOf intent.amount = some amount.toNat ∧ Names intent.account to' ∧
      Permits c.toExecutionConstraints (getAddress to')
  | .approve spender amount => weiOf prepared.value = some 0 ∧
      weiOf intent.amount = some amount.toNat ∧
      Permits c.toExecutionConstraints (getAddress spender)
  | .view _ => False

def InOrder (decodeFunctionData : String → Except String StethCall) (prepared : LendingPrepared)
    (intent : LidoIntent) (c : LidoConstraints) : Prop :=
  ∃ call, decodeFunctionData prepared.data = .ok call ∧ CallInOrder prepared intent c call

section

variable {decodeFunctionData : String → Except String StethCall} {prepared : LendingPrepared}
  {intent : LidoIntent} {c : LidoConstraints} {call : StethCall} {target : Address}

theorem lawful_of_compared (h : Compared prepared target call intent c) :
    ∃ e, effectOf prepared target intent.account call = some e ∧
      (Lawful e ⟨c.allowedTargets, intent.amount, intent.account⟩ c.toExecutionConstraints
        prepared.value ↔ CallInOrder prepared intent c call) := by
  have hcall := h.call
  cases call with
  | view functionName => exact absurd hcall id
  | submit referral =>
    obtain ⟨hvalue, -, hself⟩ := hcall
    have hamount : weiOf prepared.value = weiOf intent.amount := by rw [hvalue]
    refine ⟨_, rfl, fun hlawful => ?_, fun hopen => ⟨h.target, hamount, fun s hs => ?_,
      fun s hs => ?_, hamount⟩⟩
    · exact (permits_iff.mp (hlawful.receivers _ (List.mem_singleton.mpr rfl))).2
    · obtain rfl := Option.some.inj hs
      exact rfl
    · obtain rfl := List.mem_singleton.mp hs
      exact permits_iff.mpr ⟨hself, hopen⟩
  | transfer to' amount =>
    refine ⟨_, rfl, fun hlawful => ⟨hlawful.value, hlawful.amount.symm,
      sameText_getAddress.mp (hlawful.credited _ rfl),
      hlawful.receivers _ (List.mem_singleton.mpr rfl)⟩, fun hopen => ?_⟩
    obtain ⟨hvalue, hamount, haccount, hpermits⟩ := hopen
    refine ⟨h.target, hamount.symm, fun s hs => ?_, fun s hs => ?_, hvalue⟩
    · obtain rfl := Option.some.inj hs
      exact sameText_getAddress.mpr haccount
    · obtain rfl := List.mem_singleton.mp hs
      exact hpermits
  | approve spender amount =>
    refine ⟨_, rfl, fun hlawful => ⟨hlawful.value, hlawful.amount.symm,
      hlawful.receivers _ (List.mem_singleton.mpr rfl)⟩, fun hopen => ?_⟩
    obtain ⟨hvalue, hamount, hpermits⟩ := hopen
    refine ⟨h.target, hamount.symm, fun s hs => (by cases hs), fun s hs => ?_, hvalue⟩
    obtain rfl := List.mem_singleton.mp hs
    exact hpermits

/-- **An accepted call is lawful iff what nothing compares is in order.** -/
theorem lawful_iff (h : Accepted decodeFunctionData prepared intent c) :
    DoesAsAsked decodeFunctionData prepared intent c ↔
      InOrder decodeFunctionData prepared intent c := by
  obtain ⟨call, a, hcall, ha, hcompared⟩ := accepted_iff.mp h
  obtain ⟨e, he, hiff⟩ := lawful_of_compared hcompared
  constructor
  · intro hlawful
    obtain ⟨call', a', e', hcall', ha', he', hlawful⟩ := hlawful
    obtain rfl : call = call' := Except.ok.inj (hcall.symm.trans hcall')
    obtain rfl : a = a' := Option.some.inj (ha.symm.trans ha')
    obtain rfl : e = e' := Option.some.inj (he.symm.trans he')
    exact ⟨call, hcall, hiff.mp hlawful⟩
  · intro hopen
    obtain ⟨call', hcall', hopen⟩ := hopen
    obtain rfl : call = call' := Except.ok.inj (hcall.symm.trans hcall')
    exact ⟨call, a, e, hcall, ha, he, hiff.mpr hopen⟩

end

end ContextLock.Execution.Lido
