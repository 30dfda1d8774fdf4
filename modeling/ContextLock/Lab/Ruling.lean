/-
  Subject:   `decideOnSnapshot`: the ruling on an action of fixed size at a snapshot's price.

  The amount times the price is cut to whole millionths of a dollar, and the policy rules on those.
  What is cut away is less than one of them, so what is permitted is within a limit up to one.
-/
import ContextLock.Js.BigInt
import ContextLock.Policy.Risk
import ContextLock.Reality.Decision
import Mathlib.Algebra.Order.Field.Basic
import Mathlib.Tactic.FieldSimp
import Mathlib.Tactic.Ring

namespace ContextLock.Lab

open Js Policy Reality

/-! ## 1. The ruling -/

/-- Which layer produced the verdict. -/
inductive RulingLayer where
  | REALITY
  | POLICY
  deriving DecidableEq

structure ScenarioDecisionBasis where
  fromSnapshot : List String
  neutralised : List String
  action : String

structure ScenarioDecisionResult where
  verdict : Verdict
  reasonCode : String
  layer : RulingLayer
  valuedAt : Option String
  basis : ScenarioDecisionBasis

/-- What `bigint` arithmetic throws: a negative exponent, a text that is no number. -/
inductive BigIntError where
  | RangeError
  | SyntaxError

structure ScenarioArgs where
  snapshot : MarketSnapshot
  policy : PrivatePolicy
  priceMetric : String
  amount : Int
  amountDecimals : Int
  amountLabel : String
  actionKind : String
  agentIdentityHash : String
  target : String
  recipient : String
  nowMs : Int
  maxSnapshotAgeMs : Int

def NEUTRALISED : List String :=
  ["slippageBps = 0 — a mainnet price snapshot carries no execution slippage, and 0 cannot trip the bound",
   "volatilityBps = 0 — not observed here; 0 cannot trip the volatility bound",
   "liquidity = the policy's own minimum — not observed here, and the minimum cannot fall below itself",
   "healthFactorBps = the policy's target — not observed here, and the target is never the escalation trigger"]

def USD_DECIMALS : Int := 6

/-- `10n ** n`. -/
def powerOfTen (n : Int) : Except BigIntError Int :=
  if n < 0 then .error .RangeError else .ok (10 ^ n.toNat)

/-- `BigInt(s)`. -/
def toBigInt (s : String) : Except BigIntError Int := (bigInt s).elim (.error .SyntaxError) .ok

namespace ScenarioArgs

/-- The first observation of the metric. -/
def price (args : ScenarioArgs) : Option MarketObservation :=
  args.snapshot.observations.find? fun o => o.metric = args.priceMetric

def basis (args : ScenarioArgs) : ScenarioDecisionBasis where
  fromSnapshot := [args.priceMetric ++ " (verified oracle observation)",
    "the observation's own source timestamp"]
  neutralised := NEUTRALISED
  action := args.amountLabel

def noValidContext (args : ScenarioArgs) : ScenarioDecisionResult :=
  ⟨.deny, "NO_VALID_CONTEXT", .REALITY, none, args.basis⟩

def ctx (args : ScenarioArgs) (sourceTimestampMs : Int) : MarketContext where
  observedAtUnix := .int (sourceTimestampMs.fdiv 1000)
  slippageBps := .int 0
  volatilityBps := .int 0
  liquidity := args.policy.minLiquidity
  healthFactorBps := args.policy.targetHealthFactorBps

/-- What both parameters stand for is the platform's: the hash of a text, and an amount of dollars
    as it is shown. -/
def req (keccak256 : String → String) (args : ScenarioArgs) (usdBase : Int) : EvaluationRequest where
  requestHash := keccak256 ("scenario:" ++ args.snapshot.snapshotHash)
  agentIdentityHash := args.agentIdentityHash
  ensNode := keccak256 "scenario-ens"
  agent := args.recipient
  chainId := .int 11155111
  target := args.target
  value := 0
  calldataHash := keccak256 "scenario-calldata"
  selector := "0x573ade81"
  decodedRecipient := args.recipient
  decodedAmount := usdBase
  intentHash := keccak256 "scenario-intent"
  policyId := args.policy.policyId
  policyVersion := args.policy.policyVersion
  actionKind := args.actionKind

end ScenarioArgs

section Ruling

variable (keccak256 : String → String) (toLocaleString : Int → String)

/-- The policy's decision on an amount of millionths. -/
def ruled (args : ScenarioArgs) (sourceTimestampMs usdBase : Int) : ScenarioDecisionResult :=
  let decision := evaluatePolicy (args.req keccak256 usdBase) args.policy
    (args.ctx sourceTimestampMs) (args.nowMs.fdiv 1000)
  ⟨decision.verdict, decision.reasonCode.text, .POLICY, some ("$" ++ toLocaleString usdBase),
    args.basis⟩

/-- The ruling at a price; it is valued before the price's age is asked for. -/
def decideAtPrice (args : ScenarioArgs) (price : MarketObservation) :
    Except BigIntError ScenarioDecisionResult := do
  let scale ← powerOfTen (args.amountDecimals + price.decimals - USD_DECIMALS)
  let value ← toBigInt price.value
  let usdBase := (args.amount * value).tdiv scale
  match price.sourceTimestampMs with
  | none => .ok args.noValidContext
  | some sourceTimestampMs => .ok (ruled keccak256 toLocaleString args sourceTimestampMs usdBase)

def decideOnSnapshot (args : ScenarioArgs) : Except BigIntError ScenarioDecisionResult :=
  match assertSnapshotUsable args.snapshot.toSnapshotBody args.nowMs args.maxSnapshotAgeMs
      "scenario decision" with
  | .error _ => .ok args.noValidContext
  | .ok _ => args.price.elim (.ok args.noValidContext) (decideAtPrice keccak256 toLocaleString args)

/-! ## 2. What it should do -/

def AdmittedValue (value : String) : Prop :=
  isDecimal value = true ∨ ∃ digits, isDecimal digits = true ∧ value = "-" ++ digits

/-- A non-negative amount, at a price that is not negative and has decimals enough, with the
    amount's, for a millionth of a dollar. -/
structure ScenarioArgs.WellPriced (args : ScenarioArgs) : Prop where
  amount : 0 ≤ args.amount
  admitted : ∀ o, args.price = some o → AdmittedValue o.value
  value : ∀ o n, args.price = some o → bigInt o.value = some n → 0 ≤ n
  decimals : ∀ o, args.price = some o → USD_DECIMALS ≤ args.amountDecimals + o.decimals

/-- The exact value of the action in dollars. -/
def exactUsd (args : ScenarioArgs) (o : MarketObservation) (n : Int) : ℚ :=
  (args.amount * n : ℚ) / 10 ^ (args.amountDecimals + o.decimals)

/-- The exact value, at the observed price, is not negative and less than a millionth of a dollar
    over a limit. -/
def Within (args : ScenarioArgs) (limit : Int) : Prop :=
  ∃ o n, args.price = some o ∧ bigInt o.value = some n ∧ 0 ≤ exactUsd args o n ∧
    exactUsd args o n < ((limit : ℚ) + 1) / 10 ^ USD_DECIMALS

/-- The same question about another amount at other observations. -/
def ScenarioArgs.observed (args : ScenarioArgs) (amount : Int)
    (observations : List MarketObservation) (snapshotHash : String) : ScenarioArgs :=
  { args with amount, snapshot := { args.snapshot with observations, snapshotHash } }

/-- A larger amount at a higher price, with everything else equal. -/
structure Larger (args args' : ScenarioArgs) : Prop where
  same : ∃ amount observations snapshotHash,
    args' = args.observed amount observations snapshotHash ∧ args.amount ≤ amount
  price : ∃ o o', args.price = some o ∧ args'.price = some o' ∧ o' = { o with value := o'.value } ∧
    ∀ n n', bigInt o.value = some n → bigInt o'.value = some n' → n ≤ n'

/-- **What is asked of a ruling.** -/
structure LawfulRuling (args : ScenarioArgs) : Prop where
  decides : ∃ r, decideOnSnapshot keccak256 toLocaleString args = .ok r
  allowed : ∀ r, decideOnSnapshot keccak256 toLocaleString args = .ok r → r.verdict = .allow →
    Within args args.policy.autoLimit
  permitted : ∀ r, decideOnSnapshot keccak256 toLocaleString args = .ok r → r.verdict ≠ .deny →
    Within args args.policy.escalationLimit
  no_laxer : ∀ args' r r', Larger args args' → args'.WellPriced →
    decideOnSnapshot keccak256 toLocaleString args = .ok r →
    decideOnSnapshot keccak256 toLocaleString args' = .ok r' →
      r.verdict.severity ≤ r'.verdict.severity
  first : ∀ observations, (observations.find? fun o => o.metric = args.priceMetric) = args.price →
    decideOnSnapshot keccak256 toLocaleString
        (args.observed args.amount observations args.snapshot.snapshotHash)
      = decideOnSnapshot keccak256 toLocaleString args

variable {keccak256 : String → String} {toLocaleString : Int → String} {args args' : ScenarioArgs}
  {o : MarketObservation} {n : Int}

/-! ## 3. The value -/

theorem bigInt_of_admitted {value : String} (h : AdmittedValue value) :
    ∃ n, bigInt value = some n := by
  rcases h with hdecimal | ⟨digits, hdecimal, rfl⟩
  · exact ⟨_, bigInt_of_decimal hdecimal⟩
  · obtain ⟨hne, hdigits⟩ : digits.toList ≠ [] ∧ ∀ c ∈ digits.toList, c.isDigit := by
      simpa [isDecimal] using hdecimal
    have htext : ("-" ++ digits).toList = '-' :: digits.toList := by
      rw [String.toList_append]
      rfl
    have htrim : trim ("-" ++ digits) = "-" ++ digits := by
      refine trim_of_no_space fun c hc => ?_
      rw [htext] at hc
      rcases List.mem_cons.mp hc with rfl | hc
      · decide
      · exact isSpace_of_isDigit (hdigits c hc)
    refine ⟨-(Nat.ofDigitChars 10 digits.toList 0 : Nat), ?_⟩
    unfold bigInt
    rw [htrim, htext]
    simp only [digitsIn_ten hne hdigits]
    rfl

/-- **The exact value, from the value that is ruled on.** -/
theorem usdBase_lt {x limit e : Int} (hx : 0 ≤ x) (he : 0 ≤ e)
    (h : x.tdiv (10 ^ e.toNat) ≤ limit) :
    (x : ℚ) / 10 ^ (e + USD_DECIMALS) < ((limit : ℚ) + 1) / 10 ^ USD_DECIMALS := by
  have hpos : (0 : Int) < 10 ^ e.toNat := by positivity
  have hpos' : (0 : ℚ) < 10 ^ e.toNat := by positivity
  have hsix : (0 : ℚ) < 10 ^ USD_DECIMALS := by positivity
  rw [Int.tdiv_eq_ediv_of_nonneg hx] at h
  have hlt : x < (limit + 1) * 10 ^ e.toNat :=
    (Int.ediv_lt_iff_lt_mul hpos).mp (Int.lt_add_one_of_le h)
  have hlt' : (x : ℚ) < ((limit : ℚ) + 1) * 10 ^ e.toNat := by exact_mod_cast hlt
  have hscale : (10 : ℚ) ^ (e + USD_DECIMALS) = 10 ^ e.toNat * 10 ^ USD_DECIMALS := by
    rw [zpow_add₀ (by norm_num), ← zpow_natCast, Int.toNat_of_nonneg he]
  rw [hscale, ← div_div, div_lt_div_iff_of_pos_right hsix, div_lt_iff₀ hpos']
  exact hlt'

/-- What is ruled on. -/
def usdBase (args : ScenarioArgs) (o : MarketObservation) (n : Int) : Int :=
  (args.amount * n).tdiv (10 ^ (args.amountDecimals + o.decimals - USD_DECIMALS).toNat)

theorem within_of_usdBase (hwell : args.WellPriced) (hprice : args.price = some o)
    (hn : bigInt o.value = some n) {limit : Int} (h : usdBase args o n ≤ limit) :
    Within args limit := by
  have hnonneg : 0 ≤ args.amount * n := mul_nonneg hwell.amount (hwell.value o n hprice hn)
  have hlt := usdBase_lt hnonneg (sub_nonneg.mpr (hwell.decimals o hprice)) h
  rw [sub_add_cancel, Int.cast_mul] at hlt
  refine ⟨o, n, hprice, hn, ?_, hlt⟩
  unfold exactUsd
  have hnonneg' : (0 : ℚ) ≤ args.amount * n := by exact_mod_cast hnonneg
  positivity

/-! ## 4. The ruling on it -/

/-- An amount that is larger is ruled on no more laxly. -/
theorem evaluatePolicy_amount {req : EvaluationRequest} {policy : PrivatePolicy}
    {ctx : MarketContext} {nowUnix amount amount' : Int} (h : amount ≤ amount') :
    (evaluatePolicy (req.withAmount amount) policy ctx nowUnix).verdict.severity
      ≤ (evaluatePolicy (req.withAmount amount') policy ctx nowUnix).verdict.severity := by
  have hsame : refusal (req.withAmount amount') policy ctx nowUnix
      = refusal (req.withAmount amount) policy ctx nowUnix := rfl
  rw [evaluatePolicy_eq, evaluatePolicy_eq, hsame]
  cases refusal (req.withAmount amount) policy ctx nowUnix with
  | some reason => exact le_rfl
  | none =>
    have hpermits : (evaluateMarket (req.withAmount amount') policy ctx (integer ctx.slippageBps)
          (integer ctx.volatilityBps)).verdict ≠ .deny →
        (evaluateMarket (req.withAmount amount) policy ctx (integer ctx.slippageBps)
          (integer ctx.volatilityBps)).verdict ≠ .deny := by
      intro hnot
      obtain ⟨hamount, hrest⟩ := evaluateMarket_ne_deny.mp hnot
      exact evaluateMarket_ne_deny.mpr ⟨h.trans hamount, hrest⟩
    refine severity_le_iff.mpr ⟨fun hallow => ?_, hpermits⟩
    obtain ⟨hnot, hcalm, hhealth, hauto, hrisk⟩ := evaluateMarket_allow.mp hallow
    refine evaluateMarket_allow.mpr ⟨hpermits hnot, hcalm, hhealth, h.trans hauto,
      lt_int_mono ?_ hrisk⟩
    have hpos : 0 < if policy.autoLimit > 0 then policy.autoLimit else 1 := by
      split <;> omega
    have hquotient := Int.tdiv_le_tdiv hpos h
    unfold riskScore
    exact Int.add_le_add_left (Int.mul_le_mul_of_nonneg_right hquotient (by decide)) _

/-- A snapshot that is neither old nor incoherent. -/
def Recent (args : ScenarioArgs) : Prop :=
  args.nowMs - args.snapshot.observedAtMs ≤ args.maxSnapshotAgeMs ∧
    args.snapshot.coherence.coherent = true

instance decidableRecent (args : ScenarioArgs) : Decidable (Recent args) :=
  inferInstanceAs (Decidable (_ ∧ _))

/-- The ruling where a price is observed. -/
def ruledAt (keccak256 : String → String) (toLocaleString : Int → String) (args : ScenarioArgs)
    (o : MarketObservation) (n : Int) : ScenarioDecisionResult :=
  if Recent args then
    o.sourceTimestampMs.elim args.noValidContext fun sourceTimestampMs =>
      ruled keccak256 toLocaleString args sourceTimestampMs (usdBase args o n)
  else args.noValidContext

theorem decideOnSnapshot_none (hprice : args.price = none) :
    decideOnSnapshot keccak256 toLocaleString args = .ok args.noValidContext := by
  unfold decideOnSnapshot
  rw [hprice]
  split <;> rfl

theorem decideOnSnapshot_some (hwell : args.WellPriced) (hprice : args.price = some o)
    (hn : bigInt o.value = some n) :
    decideOnSnapshot keccak256 toLocaleString args
      = .ok (ruledAt keccak256 toLocaleString args o n) := by
  have hsome : args.snapshot.observations ≠ [] := by
    intro hempty
    rw [ScenarioArgs.price, hempty] at hprice
    cases hprice
  have hscale : powerOfTen (args.amountDecimals + o.decimals - USD_DECIMALS)
      = .ok (10 ^ (args.amountDecimals + o.decimals - USD_DECIMALS).toNat) :=
    if_neg (not_lt.mpr (sub_nonneg.mpr (hwell.decimals o hprice)))
  have hvalue : toBigInt o.value = .ok n := by
    rw [toBigInt, hn]
    rfl
  unfold decideOnSnapshot ruledAt
  by_cases hrecent : Recent args
  · have husable : assertSnapshotUsable args.snapshot.toSnapshotBody args.nowMs
        args.maxSnapshotAgeMs "scenario decision" = .ok () :=
      assertSnapshotUsable_ok_iff.mpr ⟨hrecent.1, hsome, hrecent.2⟩
    rw [husable, hprice, if_pos hrecent]
    show decideAtPrice keccak256 toLocaleString args o = _
    unfold decideAtPrice
    rw [hscale, hvalue]
    cases o.sourceTimestampMs <;> rfl
  · rw [if_neg hrecent]
    split
    · rfl
    · next husable =>
      have h := assertSnapshotUsable_ok_iff.mp husable
      exact absurd ⟨h.age, h.coherent⟩ hrecent

/-- What is not denied is a ruling of the policy. -/
theorem ruled_of_ne_deny (hwell : args.WellPriced) {r : ScenarioDecisionResult}
    (hr : decideOnSnapshot keccak256 toLocaleString args = .ok r) (hnot : r.verdict ≠ .deny) :
    ∃ o n atMs, args.price = some o ∧ bigInt o.value = some n ∧
      r = ruled keccak256 toLocaleString args atMs (usdBase args o n) := by
  cases hprice : args.price with
  | none =>
    rw [decideOnSnapshot_none hprice] at hr
    cases hr
    exact absurd rfl hnot
  | some o =>
    obtain ⟨n, hn⟩ := bigInt_of_admitted (hwell.admitted o hprice)
    rw [decideOnSnapshot_some hwell hprice hn] at hr
    cases hr
    unfold ruledAt at hnot ⊢
    split at hnot
    · next hrecent =>
      rw [if_pos hrecent]
      cases htime : o.sourceTimestampMs with
      | none =>
        rw [htime] at hnot
        exact absurd rfl hnot
      | some atMs => exact ⟨o, n, atMs, rfl, hn, rfl⟩
    · exact absurd rfl hnot

theorem usdBase_le (hwell : args.WellPriced) (hprice : args.price = some o)
    (hn : bigInt o.value = some n) {o' : MarketObservation} {n' : Int}
    (hdecimals : args'.amountDecimals + o'.decimals = args.amountDecimals + o.decimals)
    (hamount : args.amount ≤ args'.amount) (hle : n ≤ n') :
    usdBase args o n ≤ usdBase args' o' n' := by
  unfold usdBase
  rw [hdecimals]
  have hnonneg := hwell.value o n hprice hn
  exact Int.tdiv_le_tdiv (by positivity)
    (mul_le_mul hamount hle hnonneg (hwell.amount.trans hamount))

/-- **A larger amount at a higher price is ruled on no more laxly.** -/
theorem no_laxer_of_larger (hwell : args.WellPriced) (hwell' : args'.WellPriced)
    (h : Larger args args') {r r' : ScenarioDecisionResult}
    (hr : decideOnSnapshot keccak256 toLocaleString args = .ok r)
    (hr' : decideOnSnapshot keccak256 toLocaleString args' = .ok r') :
    r.verdict.severity ≤ r'.verdict.severity := by
  obtain ⟨o, o', hprice, hprice', hsame, hle⟩ := h.price
  obtain ⟨n, hn⟩ := bigInt_of_admitted (hwell.admitted o hprice)
  obtain ⟨n', hn'⟩ := bigInt_of_admitted (hwell'.admitted o' hprice')
  rw [decideOnSnapshot_some hwell hprice hn] at hr
  rw [decideOnSnapshot_some hwell' hprice' hn'] at hr'
  cases hr
  cases hr'
  obtain ⟨amount, observations, snapshotHash, rfl, hamount⟩ := h.same
  have hdecimals : o'.decimals = o.decimals := by rw [hsame]
  have htime : o'.sourceTimestampMs = o.sourceTimestampMs := by rw [hsame]
  have hvalue : usdBase args o n
      ≤ usdBase (args.observed amount observations snapshotHash) o' n' :=
    usdBase_le hwell hprice hn (congrArg (args.amountDecimals + ·) hdecimals) hamount
      (hle n n' hn hn')
  have hrecent : Recent (args.observed amount observations snapshotHash) ↔ Recent args := Iff.rfl
  unfold ruledAt
  simp only [hrecent, htime]
  split
  · cases o.sourceTimestampMs with
    | none => exact le_rfl
    | some atMs =>
      exact @evaluatePolicy_amount (args.req keccak256 0) _ _ _ _ _ hvalue
  · exact le_rfl

/-- **What holds of every ruling.** -/
theorem decideOnSnapshot_sound (keccak256 : String → String) (toLocaleString : Int → String)
    (args : ScenarioArgs) (hwell : args.WellPriced) : LawfulRuling keccak256 toLocaleString args where
  decides := by
    cases hprice : args.price with
    | none => exact ⟨_, decideOnSnapshot_none hprice⟩
    | some o =>
      obtain ⟨n, hn⟩ := bigInt_of_admitted (hwell.admitted o hprice)
      exact ⟨_, decideOnSnapshot_some hwell hprice hn⟩
  allowed := by
    intro r hr hallow
    have hnot : r.verdict ≠ .deny := by
      rw [hallow]
      decide
    obtain ⟨o, n, atMs, hprice, hn, rfl⟩ := ruled_of_ne_deny hwell hr hnot
    exact within_of_usdBase hwell hprice hn (evaluatePolicy_autonomous hallow)
  permitted := by
    intro r hr hnot
    obtain ⟨o, n, atMs, hprice, hn, rfl⟩ := ruled_of_ne_deny hwell hr hnot
    exact within_of_usdBase hwell hprice hn (evaluatePolicy_within hnot).2
  no_laxer := fun args' r r' h hwell' hr hr' => no_laxer_of_larger hwell hwell' h hr hr'
  first := by
    intro observations hfirst
    have hsame : (args.observed args.amount observations args.snapshot.snapshotHash).price
        = args.price := hfirst
    have hwell' : (args.observed args.amount observations args.snapshot.snapshotHash).WellPriced :=
      ⟨hwell.amount, fun o ho => hwell.admitted o (hsame ▸ ho),
        fun o n ho => hwell.value o n (hsame ▸ ho), fun o ho => hwell.decimals o (hsame ▸ ho)⟩
    cases hprice : args.price with
    | none =>
      rw [decideOnSnapshot_none hprice, decideOnSnapshot_none (hsame.trans hprice)]
      rfl
    | some o =>
      obtain ⟨n, hn⟩ := bigInt_of_admitted (hwell.admitted o hprice)
      rw [decideOnSnapshot_some hwell hprice hn,
        decideOnSnapshot_some hwell' (hsame.trans hprice) hn]
      rfl

end Ruling

/-! ## 5. Over the limit -/

/-- A repayment of `amount` wei under a policy that allows a thousandth of a dollar. -/
def repayment (amount : Int) : ScenarioArgs where
  snapshot := priceSnapshot "0xsnapshot"
  policy := lendingPolicy
  priceMetric := "weth/usd:price"
  amount := amount
  amountDecimals := 18
  amountLabel := "repay WETH"
  actionKind := "REPAY_DEBT"
  agentIdentityHash := "0xagent"
  target := "0xpool"
  recipient := "0xuser"
  nowMs := 1760000000000
  maxSnapshotAgeMs := 600000

theorem priceObservation_value : bigInt priceObservation.value = some 243442000000 := by decide

theorem repayment_wellPriced {amount : Int} (h : 0 ≤ amount) : (repayment amount).WellPriced := by
  refine ⟨h, fun o ho => ?_, fun o n ho hn => ?_, fun o ho => ?_⟩
  all_goals obtain rfl := Option.some.inj ho
  · exact .inl (by decide)
  · rw [priceObservation_value] at hn
    cases hn
    decide
  · exact (by decide : (6 : Int) ≤ 18 + 8)

theorem decideOnSnapshot_repayment : LawfulRuling id toString (repayment 1) :=
  decideOnSnapshot_sound id toString (repayment 1) (repayment_wellPriced (by decide))

/-- **What is cut away carries an action over the limit**: it is worth half a millionth more than
    the thousandth of a dollar that is allowed, and it is allowed. -/
theorem allowed_over_limit :
    ((decideOnSnapshot id toString (repayment 411000000000)).toOption.map (·.verdict)) = some .allow ∧
      ∀ o n, (repayment 411000000000).price = some o → bigInt o.value = some n →
        (lendingPolicy.autoLimit : ℚ) / 10 ^ USD_DECIMALS < exactUsd (repayment 411000000000) o n := by
  constructor
  · decide
  · intro o n ho hn
    obtain rfl := Option.some.inj ho
    rw [priceObservation_value] at hn
    cases hn
    norm_num [exactUsd, repayment, priceObservation, lendingPolicy, USD_DECIMALS]

end ContextLock.Lab
