/-
  Subject:   A Uniswap swap: decoded from its calldata, and compared with what was asked for.

  The adapter takes the message sender from the response of the provider that built the call.
-/
import ContextLock.Execution.Router
import ContextLock.Js.BigInt

namespace ContextLock.Execution.Uniswap

open Js Evm

/-! ## 1. Intents and provider responses -/

inductive UniswapMode where
  | tradingApi
  | universalRouter

def UniswapMode.text : UniswapMode → String
  | tradingApi => "trading-api"
  | universalRouter => "universal-router"

structure UniswapSwapIntent where
  chainId : Js.Num
  tokenIn : String
  tokenOut : String
  amountIn : String
  recipient : String
  slippageBps : Js.Num
  deadline : String

/-- `swap` of a response. -/
structure PreparedSwap where
  to' : String
  data : String
  value : String
  from' : String
  chainId : Js.Num
  gasLimit : Option String

structure ProviderQuote where
  quoteId : Option String
  amountOut : Option String
  minAmountOut : Option String
  recipientSummary : Option String
  createdAtMs : Js.Num

structure UniswapPrepared where
  mode : UniswapMode
  swap : PreparedSwap
  quote : ProviderQuote

def problem (code field message : String) : ValidationProblem := ⟨code, .CRITICAL, field, message⟩

/-! ## 2. Deployments -/

structure UniswapDeployment where
  chainId : Nat
  universalRouter : String
  permit2 : String

def UNISWAP_DEPLOYMENTS : List UniswapDeployment :=
  [⟨11155111, "0x3A9D48AB9751398BbFa63ad67599Bb04e4BdF98b",
    "0x000000000022D473030F116dDEE9F6B43aC78BA3"⟩]

def deploymentFor (chainId : Js.Num) : Except Thrown UniswapDeployment :=
  match UNISWAP_DEPLOYMENTS.find? fun d => Js.Num.int d.chainId = chainId with
  | some d => .ok d
  | none => .error (.other (s!"no verified Uniswap deployment recorded for chain {chainId.text}; " ++
      "refusing to guess a router address"))

/-! ## 3. Decoding -/

/-- A text where one stands that counts as true. -/
def truthy (s : Option String) : Option String := s.filter (· ≠ "")

@[simp] theorem truthy_none : truthy none = none := rfl

@[simp] theorem truthy_empty : truthy (some "") = none := rfl

theorem truthy_of_ne {s : String} (h : s ≠ "") : truthy (some s) = some s := by
  simp [truthy, Option.filter, h]

def optionalField (key : String) : Option String → List (String × Json)
  | some s => [(key, .str s)]
  | none => []

def quoteJson (q : ProviderQuote) : Json :=
  .obj (optionalField "quoteId" q.quoteId ++ optionalField "amountOut" q.amountOut ++
    optionalField "minAmountOut" q.minAmountOut ++
    optionalField "recipientSummary" q.recipientSummary ++ [("createdAtMs", .num q.createdAtMs)])

/-- A token with its amount, where both are there. -/
def flowOf (token amount : Option String) : List AssetFlow :=
  match token, amount with
  | some t, some a => [⟨t, a, none, none⟩]
  | _, _ => []

def minOutputOf (token amount : Option String) : List MinOutput :=
  match token, amount with
  | some t, some a => [⟨t, a⟩]
  | _, _ => []

/-- The action a summary is reported as. -/
def normalized (prepared : UniswapPrepared) (target : String) (d : DecodedRouterCall) :
    NormalizedAction where
  chainId := prepared.swap.chainId
  target := target
  calldata := prepared.swap.data
  value := prepared.swap.value
  actionType := "SWAP"
  inputs := flowOf d.tokenIn d.amountIn
  outputs := flowOf d.tokenOut d.amountOutMin
  recipient := truthy d.finalRecipient
  spender := none
  allowanceChanges := d.approvals
  minOutputs := minOutputOf d.tokenOut d.amountOutMin
  deadline := d.deadline
  providerMetadata := [("quote", quoteJson prepared.quote),
    ("commands", .arr (d.commands.map .str)), ("mode", .str prepared.mode.text)]

/-- `decodeTransaction`: the message sender is `swap.from`. -/
def decodeTransaction (viem : Viem) (prepared : UniswapPrepared) : Except Thrown NormalizedAction :=
  (decodeUniversalRouterCalldata viem prepared.swap.data prepared.swap.from').bind fun d =>
    (checksummed prepared.swap.to').map fun target => normalized prepared target d

/-! ## 4. Validating -/

/-- `BigInt(s)`, or its `SyntaxError`. -/
def toBigInt (s : String) : Except Thrown Int :=
  match bigInt s with
  | some n => .ok n
  | none => .error (.other s!"Cannot convert {s} to a BigInt")

/-- `BigInt(10_000 - maxBps)`, or its `RangeError`. -/
def keptBps : Js.Num → Except Thrown Int
  | .int n => match Js.Num.ofBigInt (10000 - n) with
    | .int k => .ok k
    | bad => .error (.other s!"The number {bad.text} cannot be converted to a BigInt because it is not an integer")
  | bad => .error (.other
      s!"The number {bad.text} cannot be converted to a BigInt because it is not an integer")

def Includes (owner recipient : String) : Recipients → Prop
  | .selfOnly => sameText recipient owner
  | .listed recipients => listedIn recipients recipient

instance instDecidableIncludes (owner recipient : String) :
    ∀ recipients, Decidable (Includes owner recipient recipients)
  | .selfOnly => instDecidableSameText _ _
  | .listed _ => instDecidableListedIn _ _

def policyProblem (c : ExecutionConstraints) (shown : String) : ValidationProblem :=
  match c.allowedRecipients with
  | .selfOnly => problem "UNI-V-RECIPIENT-SELF" "recipient" s!"policy is self-only; decoded {shown}"
  | .listed _ => problem "UNI-V-RECIPIENT-ALLOW" "recipient"
      s!"decoded recipient {shown} is not allow-listed"

def intentProblem (intent : UniswapSwapIntent) (shown : String) : ValidationProblem :=
  problem "UNI-V-RECIPIENT" "recipient"
    s!"decoded recipient {shown} does not match the intended {intent.recipient}"

def recipientProblems (n : NormalizedAction) (intent : UniswapSwapIntent)
    (c : ExecutionConstraints) : List ValidationProblem :=
  match n.recipient.filter (toLowerCase · ≠ "") with
  | none => [problem "UNI-V-RECIPIENT-MISSING" "recipient"
      "no recipient could be decoded from the calldata"]
  | some recipient =>
    flag (¬ sameText recipient intent.recipient) (intentProblem intent recipient) ++
    flag (¬ Includes c.owner recipient c.allowedRecipients) (policyProblem c recipient)

def inputProblems (n : NormalizedAction) (intent : UniswapSwapIntent) : List ValidationProblem :=
  match n.inputs.head? with
  | none => [problem "UNI-V-NO-INPUT" "inputs" "no input token/amount could be decoded"]
  | some i =>
    flag (i.amount ≠ intent.amountIn)
      (problem "UNI-V-AMOUNT" "amountIn"
        s!"decoded amount {i.amount} does not match the intended {intent.amountIn}") ++
    flag (¬ sameText i.token intent.tokenIn)
      (problem "UNI-V-TOKEN-IN" "tokenIn"
        s!"decoded tokenIn {i.token} does not match the intended {intent.tokenIn}")

def outputProblems (n : NormalizedAction) (intent : UniswapSwapIntent) : List ValidationProblem :=
  match n.outputs.head? with
  | none => []
  | some o => flag (¬ sameText o.token intent.tokenOut)
      (problem "UNI-V-TOKEN-OUT" "tokenOut"
        s!"decoded tokenOut {o.token} does not match the intended {intent.tokenOut}")

/-- `c.maxSlippageBps ?? intent.slippageBps`. -/
def maxBps (intent : UniswapSwapIntent) (c : ExecutionConstraints) : Js.Num :=
  (c.maxSlippageBps.map .int).getD intent.slippageBps

/-- The floor under the minimum output. -/
def slippageProblems (n : NormalizedAction) (intent : UniswapSwapIntent)
    (c : ExecutionConstraints) : Except Thrown (List ValidationProblem) :=
  match n.inputs.head?, n.outputs.head? with
  | some _, some o => do
    let amountIn ← toBigInt intent.amountIn
    let kept ← keptBps (maxBps intent c)
    let floor := (amountIn * kept).tdiv 10000
    let amountOut ← toBigInt o.amount
    pure (flag (amountOut < floor)
      (problem "UNI-V-SLIPPAGE" "minOutputs"
        (s!"decoded minimum output {o.amount} is below the floor {floor} " ++
          s!"implied by {(maxBps intent c).text}bps")))
  | _, _ => .ok []

/-- Whether an approval is above the cap, where there is one. -/
def approvalSize (a : AllowanceChange) (c : ExecutionConstraints) :
    Except Thrown (List ValidationProblem) :=
  match truthy c.maxApprovalAmount with
  | none => .ok []
  | some cap => do
    let amount ← toBigInt a.amount
    let limit ← toBigInt cap
    pure (flag (limit < amount)
      (problem "UNI-V-APPROVAL-SIZE" "allowanceChanges"
        s!"approval {a.amount} exceeds the cap {cap}"))

def allowanceProblems (n : NormalizedAction) (c : ExecutionConstraints) (a : AllowanceChange) :
    Except Thrown (List ValidationProblem) := do
  let unlimited := flag (a.unlimited = true ∧ c.allowUnlimitedApprovals = false)
    (problem "UNI-V-UNLIMITED-APPROVAL" "allowanceChanges"
      s!"unlimited approval to {a.spender} is not permitted")
  let size ← approvalSize a c
  let d ← deploymentFor c.chainId
  pure (unlimited ++ size ++ flag (¬ listedIn [n.target, d.permit2] a.spender)
    (problem "UNI-V-APPROVAL-SPENDER" "allowanceChanges"
      s!"unexpected approval spender {a.spender}"))

def allAllowanceProblems (n : NormalizedAction) (c : ExecutionConstraints) :
    List AllowanceChange → Except Thrown (List ValidationProblem)
  | [] => .ok []
  | a :: rest => do
    let first ← allowanceProblems n c a
    let others ← allAllowanceProblems n c rest
    pure (first ++ others)

/-- The deadline of the call, in seconds, against the clock. -/
def deadlineProblems (n : NormalizedAction) (nowMs : Int) :
    Except Thrown (List ValidationProblem) :=
  match truthy n.deadline with
  | none => .ok []
  | some deadline => do
    let seconds ← toBigInt deadline
    pure (flag (seconds * 1000 < nowMs)
      ⟨"UNI-V-DEADLINE", .HIGH, "deadline", s!"router deadline {deadline} has already passed"⟩)

/-- `validateTransaction`: the problems it reports, or what it throws. -/
def validateTransaction (n : NormalizedAction) (intent : UniswapSwapIntent)
    (c : ExecutionConstraints) (nowMs : Int) : Except Thrown (List ValidationProblem) := do
  let chain := flag (Js.Num.strictEq n.chainId c.chainId = false)
    (problem "UNI-V-CHAIN" "chainId"
      s!"decoded chain {n.chainId.text} != policy chain {c.chainId.text}")
  let router := flag (¬ listedIn c.allowedTargets n.target)
    (problem "UNI-V-ROUTER" "target" s!"router {n.target} is not in the allow-list")
  let slippage ← slippageProblems n intent c
  let allowances ← allAllowanceProblems n c n.allowanceChanges
  let deadline ← deadlineProblems n nowMs
  pure (chain ++ router ++ recipientProblems n intent c ++ inputProblems n intent ++
    outputProblems n intent ++ slippage ++ allowances ++ deadline)

/-- The verdict on a provider's response. -/
def verdict (viem : Viem) (prepared : UniswapPrepared) (intent : UniswapSwapIntent)
    (c : ExecutionConstraints) (nowMs : Int) : Except Thrown (List ValidationProblem) :=
  (decodeTransaction viem prepared).bind fun n => validateTransaction n intent c nowMs

/-! ## 5. What throws -/

def Priced (steps : List Step) : Prop :=
  ∃ s, (swapsOf steps).getLast? = some s ∧ s.tokens ≠ []

/-- What is compared with the call can be read: the amount and the slippage where the call is
    priced; the cap, and a deployment, where it approves something. -/
structure Readable (steps : List Step) (intent : UniswapSwapIntent) (c : ExecutionConstraints) :
    Prop where
  floor : Priced steps → (∃ n, toBigInt intent.amountIn = .ok n) ∧
    ∃ k, keptBps (maxBps intent c) = .ok k
  cap : permitsOf steps ≠ [] → ∀ cap, c.maxApprovalAmount = some cap → cap ≠ "" →
    ∃ n, toBigInt cap = .ok n
  deployment : permitsOf steps ≠ [] → ∃ d, deploymentFor c.chainId = .ok d

theorem toBigInt_natText (n : Nat) : toBigInt (toString n) = .ok (n : Int) := by
  unfold toBigInt
  rw [show toString n = toString (n : Int) from rfl, bigInt_toString]

section Readable

variable {call : RouterCall} {prepared : UniswapPrepared} {target swapper : String}
  {intent : UniswapSwapIntent} {c : ExecutionConstraints}

theorem normalized_summarize :
    normalized prepared target (summarize swapper call) =
      { chainId := prepared.swap.chainId
        target := target
        calldata := prepared.swap.data
        value := prepared.swap.value
        actionType := "SWAP"
        inputs := flowOf (((swapsOf call.steps).findSome? fun s => s.tokens.head?).map getAddress)
          ((swapsOf call.steps).head?.map fun s => wordText s.amountIn)
        outputs := flowOf
          ((swapsOf call.steps).getLast?.bind fun s => s.tokens.getLast?.map getAddress)
          ((swapsOf call.steps).getLast?.map fun s => wordText s.amountOutMin)
        recipient := truthy ((payee call.steps).map (resolveRecipient · swapper))
        spender := none
        allowanceChanges := (permitsOf call.steps).map approvalOf
        minOutputs := minOutputOf
          ((swapsOf call.steps).getLast?.bind fun s => s.tokens.getLast?.map getAddress)
          ((swapsOf call.steps).getLast?.map fun s => wordText s.amountOutMin)
        deadline := call.deadline.map wordText
        providerMetadata := [("quote", quoteJson prepared.quote),
          ("commands", .arr (call.steps.map fun s => .str (commandName (codeOf s.raw)))),
          ("mode", .str prepared.mode.text)] } := by
  rw [summarize_eq]
  unfold normalized
  simp [Function.comp_def]

theorem outputs_of_priced {s : Swap} {t : Address}
    (hlast : (swapsOf call.steps).getLast? = some s) (ht : s.tokens.getLast? = some t) :
    (normalized prepared target (summarize swapper call)).outputs =
      [⟨getAddress t, wordText s.amountOutMin, none, none⟩] := by
  rw [normalized_summarize]
  simp [hlast, ht, flowOf]

theorem outputs_of_not_priced (h : ¬ Priced call.steps) :
    (normalized prepared target (summarize swapper call)).outputs = [] := by
  rw [normalized_summarize]
  cases hlast : (swapsOf call.steps).getLast? with
  | none => rfl
  | some s =>
    have hnil : s.tokens = [] := by
      by_contra hne
      exact h ⟨s, hlast, hne⟩
    simp [hnil, flowOf]

/-- A call that is priced has an input: of the first swap that names a token. -/
theorem inputs_of_priced (h : Priced call.steps) :
    ∃ first token, (swapsOf call.steps).head? = some first ∧
      ((swapsOf call.steps).findSome? fun s => s.tokens.head?) = some token ∧
      (normalized prepared target (summarize swapper call)).inputs =
        [⟨getAddress token, wordText first.amountIn, none, none⟩] := by
  obtain ⟨s, hlast, hne⟩ := h
  obtain ⟨first, hfirst⟩ : ∃ first, (swapsOf call.steps).head? = some first := by
    cases hswaps : swapsOf call.steps with
    | nil => simp [hswaps] at hlast
    | cons first rest => exact ⟨first, rfl⟩
  obtain ⟨token, htoken⟩ :
      ∃ token, ((swapsOf call.steps).findSome? fun s => s.tokens.head?) = some token := by
    rw [← Option.isSome_iff_exists, List.findSome?_isSome_iff]
    refine ⟨s, List.mem_of_getLast? hlast, ?_⟩
    cases hs : s.tokens with
    | nil => exact absurd hs hne
    | cons a rest => rfl
  refine ⟨first, token, hfirst, htoken, ?_⟩
  rw [normalized_summarize]
  simp [hfirst, htoken, flowOf]

theorem slippageProblems_ok_iff :
    (∃ ps, slippageProblems (normalized prepared target (summarize swapper call)) intent c =
      .ok ps) ↔ (Priced call.steps → (∃ n, toBigInt intent.amountIn = .ok n) ∧
        ∃ k, keptBps (maxBps intent c) = .ok k) := by
  unfold slippageProblems
  by_cases hpriced : Priced call.steps
  · obtain ⟨first, token, -, -, hinputs⟩ := @inputs_of_priced call prepared target swapper hpriced
    obtain ⟨s, hlast, hne⟩ := hpriced
    have ht : s.tokens.getLast? = some (s.tokens.getLast hne) := List.getLast?_eq_some_getLast hne
    rw [hinputs, outputs_of_priced hlast ht]
    simp only [List.head?_cons, bind_eq_ok, wordText, toBigInt_natText]
    constructor
    · rintro ⟨ps, n, hn, k, hk, -⟩ -
      exact ⟨⟨n, hn⟩, k, hk⟩
    · intro h
      obtain ⟨⟨n, hn⟩, k, hk⟩ := h ⟨s, hlast, hne⟩
      exact ⟨_, n, hn, k, hk, _, rfl, rfl⟩
  · rw [outputs_of_not_priced hpriced]
    cases (normalized prepared target (summarize swapper call)).inputs.head? <;>
      simp [hpriced]

theorem approvalSize_ok_iff {p : PermitParams} :
    (∃ ps, approvalSize (approvalOf p) c = .ok ps) ↔
      ∀ cap, c.maxApprovalAmount = some cap → cap ≠ "" → ∃ n, toBigInt cap = .ok n := by
  unfold approvalSize
  cases hcap : c.maxApprovalAmount with
  | none => simp
  | some cap =>
    by_cases hempty : cap = ""
    · simp [hempty]
    · rw [truthy_of_ne hempty]
      simp only [bind_eq_ok, approvalOf, toBigInt_natText]
      constructor
      · rintro ⟨ps, amount, -, limit, hlimit, -⟩ cap' hcap' -
        obtain rfl := Option.some.inj hcap'
        exact ⟨limit, hlimit⟩
      · intro h
        obtain ⟨limit, hlimit⟩ := h cap rfl hempty
        exact ⟨_, _, rfl, limit, hlimit, rfl⟩

theorem allowanceProblems_ok_iff {n : NormalizedAction} {p : PermitParams} :
    (∃ ps, allowanceProblems n c (approvalOf p) = .ok ps) ↔
      (∀ cap, c.maxApprovalAmount = some cap → cap ≠ "" → ∃ n, toBigInt cap = .ok n) ∧
        ∃ d, deploymentFor c.chainId = .ok d := by
  rw [← @approvalSize_ok_iff c p]
  unfold allowanceProblems
  simp only [bind_eq_ok]
  constructor
  · rintro ⟨ps, size, hsize, d, hd, -⟩
    exact ⟨⟨size, hsize⟩, d, hd⟩
  · rintro ⟨⟨size, hsize⟩, d, hd⟩
    exact ⟨_, size, hsize, d, hd, rfl⟩

theorem allAllowanceProblems_ok_iff {n : NormalizedAction} (ps : List PermitParams) :
    (∃ qs, allAllowanceProblems n c (ps.map approvalOf) = .ok qs) ↔
      (ps ≠ [] → (∀ cap, c.maxApprovalAmount = some cap → cap ≠ "" → ∃ n, toBigInt cap = .ok n) ∧
        ∃ d, deploymentFor c.chainId = .ok d) := by
  induction ps with
  | nil => simp [allAllowanceProblems]
  | cons p rest ih =>
    rw [List.map_cons, allAllowanceProblems]
    simp only [bind_eq_ok]
    constructor
    · rintro ⟨qs, first, hfirst, -⟩ -
      exact allowanceProblems_ok_iff.mp ⟨first, hfirst⟩
    · intro h
      obtain ⟨first, hfirst⟩ := (@allowanceProblems_ok_iff c n p).mpr (h (List.cons_ne_nil p rest))
      obtain ⟨others, hothers⟩ := ih.mpr fun _ => h (List.cons_ne_nil p rest)
      exact ⟨_, first, hfirst, others, hothers, rfl⟩

theorem deadlineProblems_ok {n : NormalizedAction} {nowMs : Int} {w : Option Uint256}
    (h : n.deadline = w.map wordText) : ∃ ps, deadlineProblems n nowMs = .ok ps := by
  unfold deadlineProblems
  rw [h]
  cases w with
  | none => exact ⟨[], rfl⟩
  | some w =>
    have hne : wordText w ≠ "" := Nat.repr_ne_empty
    rw [Option.map_some, truthy_of_ne hne]
    simp only [bind_eq_ok, wordText, toBigInt_natText]
    exact ⟨_, _, rfl, rfl⟩

/-- **The validation returns** exactly where what is compared with the call can be read. -/
theorem validateTransaction_ok_iff {nowMs : Int} :
    (∃ ps, validateTransaction (normalized prepared target (summarize swapper call)) intent c
      nowMs = .ok ps) ↔ Readable call.steps intent c := by
  have happrovals : (normalized prepared target (summarize swapper call)).allowanceChanges =
      (permitsOf call.steps).map approvalOf := by rw [normalized_summarize]
  have hdeadline : (normalized prepared target (summarize swapper call)).deadline =
      call.deadline.map wordText := by rw [normalized_summarize]
  unfold validateTransaction
  simp only [bind_eq_ok]
  rw [happrovals]
  constructor
  · rintro ⟨ps, slippage, hslippage, allowances, hallowances, -⟩
    have happroved := (allAllowanceProblems_ok_iff (permitsOf call.steps)).mp ⟨_, hallowances⟩
    exact ⟨slippageProblems_ok_iff.mp ⟨_, hslippage⟩, fun h => (happroved h).1,
      fun h => (happroved h).2⟩
  · intro h
    obtain ⟨slippage, hslippage⟩ := slippageProblems_ok_iff.mpr h.floor
    obtain ⟨allowances, hallowances⟩ := (allAllowanceProblems_ok_iff (permitsOf call.steps)).mpr
      fun hne => ⟨h.cap hne, h.deployment hne⟩
    obtain ⟨late, hlate⟩ := @deadlineProblems_ok _ nowMs _ hdeadline
    exact ⟨_, slippage, hslippage, allowances, hallowances, late, hlate, rfl⟩

end Readable

/-! ## 6. The recipient's part in the verdict -/

/-- The recipient is the intended one, and the policy includes it. -/
structure Admitted (intent : UniswapSwapIntent) (c : ExecutionConstraints) (recipient : String) :
    Prop where
  named : recipient ≠ ""
  intended : sameText recipient intent.recipient
  included : Includes c.owner recipient c.allowedRecipients

theorem mem_flag {bad : Prop} [Decidable bad] {p q : ValidationProblem} :
    p ∈ flag bad q ↔ bad ∧ p = q := by
  unfold flag
  by_cases h : bad
  · simp [h]
  · simp [h]

theorem toLowerCase_eq_empty {s : String} : toLowerCase s = "" ↔ s = "" := by
  unfold toLowerCase
  rw [← String.toList_inj, ← String.toList_inj, String.toList_ofList]
  exact List.map_eq_nil_iff

section Recipient

variable {intent : UniswapSwapIntent} {c : ExecutionConstraints} {n n' : NormalizedAction}

theorem recipientProblems_none (h : truthy n.recipient = none) :
    recipientProblems n intent c = [problem "UNI-V-RECIPIENT-MISSING" "recipient"
      "no recipient could be decoded from the calldata"] := by
  unfold recipientProblems
  have hfilter : n.recipient.filter (toLowerCase · ≠ "") = truthy n.recipient := by
    simp only [truthy, ne_eq, toLowerCase_eq_empty]
  rw [hfilter, h]

theorem recipientProblems_some {r : String} (h : truthy n.recipient = some r) :
    recipientProblems n intent c =
      flag (¬ sameText r intent.recipient) (intentProblem intent r) ++
      flag (¬ Includes c.owner r c.allowedRecipients) (policyProblem c r) := by
  unfold recipientProblems
  have hfilter : n.recipient.filter (toLowerCase · ≠ "") = truthy n.recipient := by
    simp only [truthy, ne_eq, toLowerCase_eq_empty]
  rw [hfilter, h]

theorem recipientProblems_congr (h : truthy n.recipient = truthy n'.recipient) :
    recipientProblems n intent c = recipientProblems n' intent c := by
  cases hr : truthy n.recipient with
  | none => rw [recipientProblems_none hr, recipientProblems_none (h.symm.trans hr)]
  | some r => rw [recipientProblems_some hr, recipientProblems_some (h.symm.trans hr)]

theorem recipientProblems_eq_nil {r : String} (h : truthy n.recipient = truthy (some r)) :
    recipientProblems n intent c = [] ↔ Admitted intent c r := by
  by_cases hne : r = ""
  · rw [hne, truthy_empty] at h
    rw [recipientProblems_none h]
    exact iff_of_false (List.cons_ne_nil _ _) fun hadmitted => hadmitted.named hne
  · rw [truthy_of_ne hne] at h
    rw [recipientProblems_some h]
    simp only [List.append_eq_nil_iff, flag_eq_nil, not_not]
    constructor
    · intro hboth
      exact ⟨hne, hboth.1, hboth.2⟩
    · intro hadmitted
      exact ⟨hadmitted.intended, hadmitted.included⟩

theorem truthy_inj {s t : String} (h : truthy (some s) = truthy (some t)) : s = t := by
  by_cases hs : s = ""
  · by_cases ht : t = ""
    · rw [hs, ht]
    · rw [hs, truthy_empty, truthy_of_ne ht] at h
      cases h
  · by_cases ht : t = ""
    · rw [ht, truthy_empty, truthy_of_ne hs] at h
      cases h
    · rw [truthy_of_ne hs, truthy_of_ne ht] at h
      exact Option.some.inj h

theorem intentProblem_inj {r r' : String} (h : intentProblem intent r = intentProblem intent r') :
    r = r' := by
  have hmessage := congrArg ValidationProblem.message h
  simp only [intentProblem, problem, String.append_left_inj, String.append_right_inj] at hmessage
  exact hmessage

theorem policyProblem_inj {r r' : String} (h : policyProblem c r = policyProblem c r') :
    r = r' := by
  have hmessage := congrArg ValidationProblem.message h
  unfold policyProblem at hmessage
  cases hc : c.allowedRecipients with
  | selfOnly =>
    simp only [hc, problem, String.append_right_inj] at hmessage
    exact hmessage
  | listed recipients =>
    simp only [hc, problem, String.append_left_inj, String.append_right_inj] at hmessage
    exact hmessage

theorem intentProblem_ne_policyProblem (r r' : String) :
    intentProblem intent r ≠ policyProblem c r' := by
  unfold policyProblem
  cases c.allowedRecipients <;> simp [intentProblem, problem]

theorem code_ne_missing {p : ValidationProblem} {r : String}
    (h : p = intentProblem intent r ∨ p = policyProblem c r) : p.code ≠ "UNI-V-RECIPIENT-MISSING" := by
  rcases h with rfl | rfl
  · simp [intentProblem, problem]
  · unfold policyProblem
    cases c.allowedRecipients <;> simp [problem]

theorem mem_recipientProblems {p : ValidationProblem} (hp : p ∈ recipientProblems n intent c) :
    (truthy n.recipient = none ∧ p.code = "UNI-V-RECIPIENT-MISSING") ∨
      ∃ r, truthy n.recipient = some r ∧ (p = intentProblem intent r ∨ p = policyProblem c r) := by
  cases hr : truthy n.recipient with
  | none =>
    rw [recipientProblems_none hr, List.mem_singleton] at hp
    exact .inl ⟨rfl, by rw [hp]; rfl⟩
  | some r =>
    rw [recipientProblems_some hr, List.mem_append] at hp
    refine .inr ⟨r, rfl, hp.imp ?_ ?_⟩
    · exact fun h => (mem_flag.mp h).2
    · exact fun h => (mem_flag.mp h).2

theorem recipient_eq_of_common {p : ValidationProblem} (hp : p ∈ recipientProblems n intent c)
    (hp' : p ∈ recipientProblems n' intent c) : truthy n.recipient = truthy n'.recipient := by
  rcases mem_recipientProblems hp with ⟨hr, hcode⟩ | ⟨r, hr, heq⟩
  · rcases mem_recipientProblems hp' with ⟨hr', -⟩ | ⟨r', -, heq'⟩
    · rw [hr, hr']
    · exact absurd hcode (code_ne_missing heq')
  · rcases mem_recipientProblems hp' with ⟨-, hcode⟩ | ⟨r', hr', heq'⟩
    · exact absurd hcode (code_ne_missing heq)
    rw [hr, hr']
    rcases heq with rfl | rfl
    · rcases heq' with h | h
      · rw [intentProblem_inj h]
      · exact absurd h (intentProblem_ne_policyProblem r r')
    · rcases heq' with h | h
      · exact absurd h.symm (intentProblem_ne_policyProblem r' r)
      · rw [policyProblem_inj h]

/-- **The problems with two recipients are the same** where they are one recipient, or neither has
    any. -/
theorem recipientProblems_eq_iff (h : truthy n.recipient ≠ truthy n'.recipient) :
    recipientProblems n intent c = recipientProblems n' intent c ↔
      recipientProblems n intent c = [] ∧ recipientProblems n' intent c = [] := by
  refine ⟨fun heq => ?_, fun hnil => hnil.1.trans hnil.2.symm⟩
  cases hps : recipientProblems n intent c with
  | nil => exact ⟨rfl, heq ▸ hps⟩
  | cons p rest =>
    have hp : p ∈ recipientProblems n intent c := hps ▸ List.mem_cons_self
    exact absurd (recipient_eq_of_common hp (heq ▸ hp)) h

theorem validateTransaction_eq_iff {nowMs : Int}
    (h : n' = { n with recipient := n'.recipient, providerMetadata := n'.providerMetadata }) :
    validateTransaction n intent c nowMs = validateTransaction n' intent c nowMs ↔
      (¬ ∃ ps, validateTransaction n intent c nowMs = .ok ps) ∨
        recipientProblems n intent c = recipientProblems n' intent c := by
  have hinputs : inputProblems n' intent = inputProblems n intent := by rw [h]; rfl
  have houtputs : outputProblems n' intent = outputProblems n intent := by rw [h]; rfl
  have hslippage : slippageProblems n' intent c = slippageProblems n intent c := by rw [h]; rfl
  have hallowances : ∀ as, allAllowanceProblems n' c as = allAllowanceProblems n c as := by
    intro as
    induction as with
    | nil => rfl
    | cons a rest ih =>
      rw [allAllowanceProblems, allAllowanceProblems, ih]
      rw [h]
      rfl
  have hchanges : n'.allowanceChanges = n.allowanceChanges := by rw [h]
  have hdeadline : deadlineProblems n' nowMs = deadlineProblems n nowMs := by rw [h]; rfl
  have hchain : n'.chainId = n.chainId := by rw [h]
  have htarget : n'.target = n.target := by rw [h]
  unfold validateTransaction
  rw [hinputs, houtputs, hslippage, hallowances, hchanges, hdeadline, hchain, htarget]
  cases slippageProblems n intent c with
  | error e => simp [bind, Except.bind]
  | ok slippage =>
    cases allAllowanceProblems n c n.allowanceChanges with
    | error e => simp [bind, Except.bind]
    | ok allowances =>
      cases deadlineProblems n nowMs with
      | error e => simp [bind, Except.bind]
      | ok late => simp [bind, Except.bind, pure, Except.pure]

end Recipient

/-! ## 7. Two responses for one call -/

/-- The responses carry one call. -/
structure SameCall (p q : UniswapPrepared) : Prop where
  data : p.swap.data = q.swap.data
  to' : p.swap.to' = q.swap.to'
  chainId : p.swap.chainId = q.swap.chainId
  value : p.swap.value = q.swap.value

def PaidToSender (steps : List Step) : Prop := payee steps = some recipientSender

section

variable {viem : Viem} {p q : UniswapPrepared} {intent : UniswapSwapIntent}
  {c : ExecutionConstraints} {nowMs : Int} {call : RouterCall} {a : Address}

theorem verdict_of_call (hcall : readCalldata viem p.swap.data = .ok call)
    (ha : addressOf p.swap.to' = some a) :
    verdict viem p intent c nowMs = validateTransaction
      (normalized p (getAddress a) (summarize p.swap.from' call)) intent c nowMs := by
  unfold verdict decodeTransaction decodeUniversalRouterCalldata
  rw [hcall, checksummed, ha]
  rfl

theorem verdict_of_unread {e : Thrown} (h : readCalldata viem p.swap.data = .error e) :
    verdict viem p intent c nowMs = .error e := by
  unfold verdict decodeTransaction decodeUniversalRouterCalldata
  rw [h]
  rfl

theorem verdict_of_no_target (hcall : readCalldata viem p.swap.data = .ok call)
    (ha : addressOf p.swap.to' = none) :
    verdict viem p intent c nowMs = .error (.invalidAddress p.swap.to') := by
  unfold verdict decodeTransaction decodeUniversalRouterCalldata
  rw [hcall, checksummed, ha]
  rfl

theorem recipient_of_paidToSender {target swapper : String} (h : PaidToSender call.steps) :
    truthy (normalized p target (summarize swapper call)).recipient = truthy (some swapper) := by
  rw [normalized_summarize, h, Option.map_some, resolveRecipient_sender]
  by_cases hempty : swapper = ""
  · rw [hempty, truthy_empty, truthy_none]
  · rw [truthy_of_ne hempty, truthy_of_ne hempty]

theorem normalized_eq_of_sameCall {target swapper swapper' : String} (h : SameCall p q) :
    normalized q target (summarize swapper' call) =
      { normalized p target (summarize swapper call) with
        recipient := (normalized q target (summarize swapper' call)).recipient
        providerMetadata := (normalized q target (summarize swapper' call)).providerMetadata } := by
  rw [normalized_summarize, normalized_summarize, h.chainId, h.data, h.value]

theorem recipient_of_not_paidToSender {target swapper swapper' : String}
    (h : ¬ PaidToSender call.steps) :
    (normalized p target (summarize swapper call)).recipient =
      (normalized q target (summarize swapper' call)).recipient := by
  rw [normalized_summarize, normalized_summarize]
  cases hpayee : payee call.steps with
  | none => rfl
  | some raw =>
    have hne : raw ≠ recipientSender := by
      rintro rfl
      exact h hpayee
    simp only [Option.map_some, resolveRecipient_of_ne hne swapper swapper']

/-- The verdicts on a call that pays the message sender. -/
theorem verdict_eq_iff_of_paid (h : SameCall p q)
    (hcall : readCalldata viem p.swap.data = .ok call) (hpaid : PaidToSender call.steps)
    (ha : addressOf p.swap.to' = some a) :
    verdict viem p intent c nowMs = verdict viem q intent c nowMs ↔
      p.swap.from' = q.swap.from' ∨
        Admitted intent c p.swap.from' ∧ Admitted intent c q.swap.from' ∨
        ¬ Readable call.steps intent c := by
  have hcall' : readCalldata viem q.swap.data = .ok call := h.data ▸ hcall
  rw [verdict_of_call hcall ha, verdict_of_call hcall' (h.to' ▸ ha),
    validateTransaction_eq_iff (normalized_eq_of_sameCall h), validateTransaction_ok_iff]
  have hp := @recipient_of_paidToSender p call (getAddress a) p.swap.from' hpaid
  have hq := @recipient_of_paidToSender q call (getAddress a) q.swap.from' hpaid
  constructor
  · intro hsame
    rcases hsame with hunread | hproblems
    · exact .inr (.inr hunread)
    by_cases hfrom : p.swap.from' = q.swap.from'
    · exact .inl hfrom
    have hne : truthy (normalized p (getAddress a) (summarize p.swap.from' call)).recipient ≠
        truthy (normalized q (getAddress a) (summarize q.swap.from' call)).recipient := by
      rw [hp, hq]
      exact fun heq => hfrom (truthy_inj heq)
    obtain ⟨hpnil, hqnil⟩ := (recipientProblems_eq_iff hne).mp hproblems
    exact .inr (.inl ⟨(recipientProblems_eq_nil hp).mp hpnil,
      (recipientProblems_eq_nil hq).mp hqnil⟩)
  · intro hcond
    rcases hcond with hfrom | ⟨hadmitted, hadmitted'⟩ | hunread
    · exact .inr (recipientProblems_congr (by rw [hp, hq, hfrom]))
    · exact .inr (((recipientProblems_eq_nil hp).mpr hadmitted).trans
        ((recipientProblems_eq_nil hq).mpr hadmitted').symm)
    · exact .inl hunread

theorem verdict_eq_of_not_paid (h : SameCall p q)
    (hcall : readCalldata viem p.swap.data = .ok call) (hpaid : ¬ PaidToSender call.steps)
    (ha : addressOf p.swap.to' = some a) :
    verdict viem p intent c nowMs = verdict viem q intent c nowMs := by
  have hcall' : readCalldata viem q.swap.data = .ok call := h.data ▸ hcall
  rw [verdict_of_call hcall ha, verdict_of_call hcall' (h.to' ▸ ha),
    validateTransaction_eq_iff (normalized_eq_of_sameCall h)]
  refine .inr (recipientProblems_congr ?_)
  rw [recipient_of_not_paidToSender hpaid]

/-- **What else the provider says does not change the verdict** exactly where the message sender is
    not the recipient that counts, or both responses name one sender, or both senders they name are
    admitted, or what the call is compared with cannot be read. -/
theorem verdict_indifferent_iff (viem : Viem) (p q : UniswapPrepared) (h : SameCall p q)
    (intent : UniswapSwapIntent) (c : ExecutionConstraints) (nowMs : Int) :
    verdict viem p intent c nowMs = verdict viem q intent c nowMs ↔
      ∀ call, readCalldata viem p.swap.data = .ok call → PaidToSender call.steps →
        (addressOf p.swap.to').isSome → p.swap.from' = q.swap.from' ∨
          Admitted intent c p.swap.from' ∧ Admitted intent c q.swap.from' ∨
          ¬ Readable call.steps intent c := by
  cases hcall : readCalldata viem p.swap.data with
  | error e =>
    rw [verdict_of_unread hcall, verdict_of_unread (h.data ▸ hcall)]
    exact iff_of_true rfl fun call hok => by cases hok
  | ok call =>
    cases ha : addressOf p.swap.to' with
    | none =>
      rw [verdict_of_no_target hcall ha, verdict_of_no_target (h.data ▸ hcall) (h.to' ▸ ha), h.to']
      exact iff_of_true rfl fun call' _ _ hsome => by cases hsome
    | some a =>
      by_cases hpaid : PaidToSender call.steps
      · rw [verdict_eq_iff_of_paid h hcall hpaid ha]
        constructor
        · intro hcond call' heq _ _
          obtain rfl := Except.ok.inj heq
          exact hcond
        · exact fun hall => hall call rfl hpaid rfl
      · refine iff_of_true (verdict_eq_of_not_paid h hcall hpaid ha) fun call' heq hpaid' => ?_
        obtain rfl := Except.ok.inj heq
        exact absurd hpaid' hpaid

end

/-! ## 8. A swap that pays the message sender -/

def senderSwap : SwapV2Params where
  recipient := recipientSender
  amountIn := 500000000
  amountOutMin := 497500000
  path := [0x1c7D4B196Cb0C7B01d743Fbc6116a902379C7238,
    0xfFf9976782d46CC05630D1f6eBAb18b2324d6B14]
  payerIsUser := true

/-- Their encoding. -/
def senderInput : Bytes :=
  abiEncode [2, 500000000, 497500000, 0xa0, 1, 2,
    0x1c7D4B196Cb0C7B01d743Fbc6116a902379C7238, 0xfFf9976782d46CC05630D1f6eBAb18b2324d6B14]

/-- `execute` with that swap alone. -/
def senderCalldata : String :=
    "0x3593564c000000000000000000000000000000000000000000000000000000000000006000000000000000" ++
    "000000000000000000000000000000000000000000000000a000000000000000000000000000000000000000" ++
    "000000000000000000f486570000000000000000000000000000000000000000000000000000000000000000" ++
    "0108000000000000000000000000000000000000000000000000000000000000000000000000000000000000" ++
    "0000000000000000000000000000000000000000010000000000000000000000000000000000000000000000" ++
    "0000000000000000200000000000000000000000000000000000000000000000000000000000000100000000" ++
    "0000000000000000000000000000000000000000000000000000000002000000000000000000000000000000" ++
    "000000000000000000000000001dcd6500000000000000000000000000000000000000000000000000000000" ++
    "001da73f6000000000000000000000000000000000000000000000000000000000000000a000000000000000" ++
    "0000000000000000000000000000000000000000000000000100000000000000000000000000000000000000" ++
    "000000000000000000000000020000000000000000000000001c7d4b196cb0c7b01d743fbc6116a902379c72" ++
    "38000000000000000000000000fff9976782d46cc05630d1f6ebab18b2324d6b14"

/-- The decoding of this calldata. -/
def senderViem : Viem where
  decodeFunctionData data :=
    if data = senderCalldata then .ok ⟨[0x08], [senderInput], some 4102444800⟩
    else .error "unknown function signature"
  swapV3 _ := .error "data size too small"
  swapV2 input := if input = senderInput then .ok senderSwap else .error "data size too small"
  permit _ := .error "data size too small"
  payment _ := .error "data size too small"
  wrap _ := .error "data size too small"

/-- A response that names a message sender. -/
def responseFrom (sender : String) : UniswapPrepared where
  mode := .universalRouter
  swap := ⟨"0x3A9D48AB9751398BbFa63ad67599Bb04e4BdF98b", senderCalldata, "0", sender,
    .int 11155111, none⟩
  quote := ⟨some "sim", some "1", some "1", none, .int 0⟩

def senderIntent : UniswapSwapIntent where
  chainId := .int 11155111
  tokenIn := "0x1c7D4B196Cb0C7B01d743Fbc6116a902379C7238"
  tokenOut := "0xfFf9976782d46CC05630D1f6eBAb18b2324d6B14"
  amountIn := "500000000"
  recipient := "0x0000000000000000000000000000000000005e1f"
  slippageBps := .int 50
  deadline := "4102444800"

def selfOnly : ExecutionConstraints where
  chainId := .int 11155111
  allowedTargets := ["0x3A9D48AB9751398BbFa63ad67599Bb04e4BdF98b"]
  allowedRecipients := .selfOnly
  owner := "0x0000000000000000000000000000000000005e1f"
  maxSlippageBps := none
  allowUnlimitedApprovals := false
  maxApprovalAmount := none
  maxQuoteAgeMs := .int 30000

def senderSteps : List Step := [⟨0x08, .V2_SWAP_EXACT_IN senderSwap⟩]

theorem readCalldata_sender (sender : String) :
    readCalldata senderViem (responseFrom sender).swap.data =
      .ok ⟨senderSteps, some 4102444800⟩ := by
  have hdecode : senderViem.decodeFunctionData senderCalldata =
      .ok ⟨[0x08], [senderInput], some 4102444800⟩ := by
    simp only [senderViem, if_true]
  have hswap : senderViem.swapV2 senderInput = .ok senderSwap := by
    simp only [senderViem, if_true]
  have hstep : readCommand senderViem 0x08 senderInput = .ok (.V2_SWAP_EXACT_IN senderSwap) := by
    unfold readCommand
    simp only [show codeOf 0x08 = 8 from rfl, hswap]
    rfl
  unfold readCalldata
  rw [show (responseFrom sender).swap.data = senderCalldata from rfl, hdecode]
  simp only [List.zip_cons_cons, List.zip_nil_left, readSteps, hstep]
  rfl

theorem readable_sender : Readable senderSteps senderIntent selfOnly where
  floor _ := ⟨⟨500000000, rfl⟩, 9950, rfl⟩
  cap h := absurd rfl h
  deployment h := absurd rfl h

/-- Two responses for one call, of which the second names another message sender: the verdicts on
    them differ. -/
theorem sender_named_by_provider :
    SameCall (responseFrom "0x0000000000000000000000000000000000005e1f")
        (responseFrom "0x000000000000000000000000000000000000dEaD") ∧
      verdict senderViem (responseFrom "0x0000000000000000000000000000000000005e1f") senderIntent
          selfOnly 0 ≠
        verdict senderViem (responseFrom "0x000000000000000000000000000000000000dEaD") senderIntent
          selfOnly 0 := by
  have hsame : SameCall (responseFrom "0x0000000000000000000000000000000000005e1f")
      (responseFrom "0x000000000000000000000000000000000000dEaD") := ⟨rfl, rfl, rfl, rfl⟩
  refine ⟨hsame, fun heq => ?_⟩
  have ha : addressOf "0x3A9D48AB9751398BbFa63ad67599Bb04e4BdF98b" =
      some 0x3A9D48AB9751398BbFa63ad67599Bb04e4BdF98b := by decide
  rcases (verdict_eq_iff_of_paid hsame (readCalldata_sender _) rfl ha).mp heq with
    hfrom | ⟨-, hadmitted⟩ | hunread
  · exact absurd hfrom (by decide)
  · exact absurd hadmitted.intended (by decide)
  · exact hunread readable_sender

/-- Another quote for one call, with one message sender: the verdict is the same. -/
theorem verdict_indifferent_quote :
    verdict senderViem (responseFrom "0x0000000000000000000000000000000000005e1f") senderIntent
        selfOnly 0 =
      verdict senderViem
        { responseFrom "0x0000000000000000000000000000000000005e1f" with
          mode := .tradingApi, quote := ⟨none, none, none, some "to the owner", .int 5⟩ }
        senderIntent selfOnly 0 := by
  refine (verdict_indifferent_iff senderViem _ _ ?_ senderIntent selfOnly 0).mpr ?_
  · exact ⟨rfl, rfl, rfl, rfl⟩
  · exact fun _ _ _ _ => .inl rfl

end ContextLock.Execution.Uniswap
