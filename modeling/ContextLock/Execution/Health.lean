/-
  Subject:   Health factors: the repayment that reaches one, and the health of a Morpho position.

  Both are quotients of integers that truncate, some more than once. The exact ones are rationals.
-/
import ContextLock.Execution.Morpho
import ContextLock.Js.BigInt
import ContextLock.Js.Rounding
import Mathlib.Algebra.Order.Field.Rat
import Mathlib.Data.Rat.Floor
import Mathlib.Tactic.Linarith
import Mathlib.Tactic.NormNum

namespace ContextLock.Execution

open Js Evm

/-! ## 1. Quotients of integers -/

theorem ediv_bounds {n d : Int} (hd : 0 < d) : n / d * d ≤ n ∧ n < (n / d + 1) * d := by
  have hle := Int.ediv_mul_le n hd.ne'
  have hlt := Int.lt_ediv_add_one_mul_self n hd
  exact ⟨hle, hlt⟩

/-- **Rounded up.** -/
theorem ceil_div {n d : Int} (hd : 0 < d) : ⌈(n : ℚ) / d⌉ = (n + d - 1) / d := by
  obtain ⟨hle, hlt⟩ := @ediv_bounds (n + d - 1) d hd
  have hdq : (0 : ℚ) < d := by exact_mod_cast hd
  rw [Int.ceil_eq_iff, lt_div_iff₀ hdq, div_le_iff₀ hdq]
  constructor
  · have h : ((n + d - 1) / d - 1) * d < n := by linarith
    exact_mod_cast h
  · have h : n ≤ (n + d - 1) / d * d := by linarith
    exact_mod_cast h

/-- **Rounded down.** -/
theorem floor_div {n d : Int} (hd : 0 < d) : ⌊(n : ℚ) / d⌋ = n / d := by
  obtain ⟨hle, hlt⟩ := @ediv_bounds n d hd
  have hdq : (0 : ℚ) < d := by exact_mod_cast hd
  rw [Int.floor_eq_iff, div_lt_iff₀ hdq, le_div_iff₀ hdq]
  exact ⟨by exact_mod_cast hle, by exact_mod_cast hlt⟩

/-! ## 2. The repayment -/

/-- A health factor of one. -/
def WAD : Int := 10 ^ 18

/-- What a repayment is computed from; the threshold is a number of basis points, read from an
    unsigned word. -/
structure RepaymentArgs where
  totalCollateralBase : Int
  totalDebtBase : Int
  liquidationThresholdBps : Nat
  targetHealthFactorWad : Int

/-- The repayment, or `null` where there is no debt. -/
def repaymentToReachHealthFactor (args : RepaymentArgs) : Except String (Option Int) :=
  if args.totalDebtBase = 0 then .ok none
  else if args.targetHealthFactorWad = 0 then
    .error "AAVE-HF-ZERO-TARGET: target health factor must be positive"
  else
    let weightedCollateral := (args.totalCollateralBase * args.liquidationThresholdBps).tdiv 10000
    let targetDebt := (weightedCollateral * WAD).tdiv args.targetHealthFactorWad
    if args.totalDebtBase ≤ targetDebt then .ok (some 0)
    else .ok (some (args.totalDebtBase - targetDebt))

namespace RepaymentArgs

/-- Collateral that is not negative, a debt and a target. -/
structure Proper (args : RepaymentArgs) : Prop where
  collateral : 0 ≤ args.totalCollateralBase
  debt : 0 < args.totalDebtBase
  target : 0 < args.targetHealthFactorWad

/-- With this debt left, the exact health factor is at least the target. -/
def Reaches (args : RepaymentArgs) (debt : Int) : Prop :=
  debt = 0 ∨ (args.targetHealthFactorWad : ℚ)
    ≤ (args.totalCollateralBase * args.liquidationThresholdBps * WAD : ℚ) / (10000 * debt)

/-- A repayment that reaches the target. -/
structure Enough (args : RepaymentArgs) (repayment : Int) : Prop where
  nonneg : 0 ≤ repayment
  le_debt : repayment ≤ args.totalDebtBase
  reaches : args.Reaches (args.totalDebtBase - repayment)

/-- More collateral, less debt and a lower target, at one threshold. -/
structure Safer (args args' : RepaymentArgs) : Prop where
  proper : args'.Proper
  threshold : args'.liquidationThresholdBps = args.liquidationThresholdBps
  collateral : args.totalCollateralBase ≤ args'.totalCollateralBase
  debt : args'.totalDebtBase ≤ args.totalDebtBase
  target : args'.targetHealthFactorWad ≤ args.targetHealthFactorWad

def targetDebt (args : RepaymentArgs) : Int :=
  args.totalCollateralBase * args.liquidationThresholdBps / 10000 * WAD
    / args.targetHealthFactorWad

variable {args args' : RepaymentArgs}

theorem reaches_iff {debt : Int} (hdebt : 0 < debt) : args.Reaches debt ↔
    args.targetHealthFactorWad * (10000 * debt)
      ≤ args.totalCollateralBase * args.liquidationThresholdBps * WAD := by
  have hpos : (0 : ℚ) < 10000 * debt := by
    have : (0 : ℚ) < debt := by exact_mod_cast hdebt
    linarith
  unfold Reaches
  rw [le_div_iff₀ hpos, or_iff_right hdebt.ne']
  exact_mod_cast Iff.rfl

theorem Proper.reaches (h : args.Proper) {debt : Int} (hdebt : 0 ≤ debt)
    (hle : debt ≤ args.targetDebt) : args.Reaches debt := by
  obtain rfl | hpos := hdebt.eq_or_lt
  · exact Or.inl rfl
  · rw [reaches_iff hpos]
    have hweighted := (@ediv_bounds (args.totalCollateralBase * args.liquidationThresholdBps)
      10000 (by decide)).1
    have htarget := (@ediv_bounds (args.totalCollateralBase * args.liquidationThresholdBps / 10000
      * WAD) _ h.target).1
    have hdebtTarget := Int.mul_le_mul_of_nonneg_right hle h.target.le
    have hwad := Int.mul_le_mul_of_nonneg_right hweighted (show (0 : Int) ≤ WAD by decide)
    unfold targetDebt at hdebtTarget
    linarith

/-- The law of a repayment: it is enough, and where the target is one at least it is above every
    other that is enough by one base unit at most. -/
structure Lawful (args : RepaymentArgs) (repayment : Int) : Prop where
  enough : args.Enough repayment
  tight : WAD ≤ args.targetHealthFactorWad → ∀ r, args.Enough r → repayment ≤ r + 1
  monotone : ∀ args', args.Safer args' → ∀ r,
    repaymentToReachHealthFactor args' = .ok (some r) → r ≤ repayment

end RepaymentArgs

namespace Morpho

/-- Oracles quote the loan token for the collateral token, in this scale. -/
def ORACLE_PRICE_SCALE : Int := 10 ^ 36

/-- What is read of a position and its market. -/
structure RawMorphoPosition where
  marketId : String
  params : MorphoMarketParams
  borrowShares : Int
  collateral : Int
  totalBorrowAssets : Int
  totalBorrowShares : Int
  price : Int
  blockNumber : Int
  timestamp : Int

inductive PositionHealth where
  | NO_DEBT
  | KNOWN (wad : Int) (bps : Js.Num)

structure MorphoPosition where
  chainId : Js.Num
  account : String
  marketId : String
  params : MorphoMarketParams
  borrowAssets : String
  collateral : String
  collateralValueInLoan : String
  ltvBps : Js.Num
  lltvBps : Js.Num
  healthFactor : PositionHealth
  blockNumber : String
  timestamp : Int

/-- The debt of shares, rounded up; the market has one virtual asset and a million virtual
    shares. -/
def borrowAssetsFromShares (shares totalBorrowAssets totalBorrowShares : Int) : Int :=
  if shares = 0 then 0
  else
    let num := shares * (totalBorrowAssets + 1)
    let den := totalBorrowShares + 10 ^ 6
    (num + den - 1).tdiv den

def ltvBpsOf (borrowAssets collateralValueInLoan : Int) : Js.Num :=
  if 0 < borrowAssets then
    if collateralValueInLoan = 0 then .int 1000000
    else Num.ofBigInt ((borrowAssets * 10000).tdiv collateralValueInLoan)
  else .int 0

def healthFactorOf (borrowAssets collateralValueInLoan lltv : Int) : PositionHealth :=
  if 0 < borrowAssets then
    let hfWad := (collateralValueInLoan * lltv).tdiv borrowAssets
    .KNOWN hfWad (Num.ofBigInt ((hfWad * 10000).tdiv WAD))
  else .NO_DEBT

/-- `BigInt(raw.params.lltv)`. -/
def lltvOf (raw : RawMorphoPosition) : Except Thrown Int :=
  match bigInt raw.params.lltv with
  | some lltv => .ok lltv
  | none => .error (.other s!"Cannot convert {raw.params.lltv} to a BigInt")

def normalizeMorphoPosition (raw : RawMorphoPosition) (account : String) (chainId : Js.Num) :
    Except Thrown MorphoPosition := do
  let _ ← morphoDeploymentFor chainId
  let borrowAssets := borrowAssetsFromShares raw.borrowShares raw.totalBorrowAssets
    raw.totalBorrowShares
  let collateralValueInLoan := (raw.collateral * raw.price).tdiv ORACLE_PRICE_SCALE
  let lltv ← lltvOf raw
  let account ← checksummed account
  return {
    chainId
    account
    marketId := raw.marketId
    params := raw.params
    borrowAssets := toString borrowAssets
    collateral := toString raw.collateral
    collateralValueInLoan := toString collateralValueInLoan
    ltvBps := ltvBpsOf borrowAssets collateralValueInLoan
    lltvBps := Num.ofBigInt (lltv.tdiv (10 ^ 14))
    healthFactor := healthFactorOf borrowAssets collateralValueInLoan lltv
    blockNumber := toString raw.blockNumber
    timestamp := raw.timestamp }

namespace RawMorphoPosition

variable (raw : RawMorphoPosition)

/-- The integers of the position are not negative. -/
structure Natural : Prop where
  borrowShares : 0 ≤ raw.borrowShares
  collateral : 0 ≤ raw.collateral
  totalBorrowAssets : 0 ≤ raw.totalBorrowAssets
  totalBorrowShares : 0 ≤ raw.totalBorrowShares
  price : 0 ≤ raw.price
  lltv : ∀ n ∈ bigInt raw.params.lltv, 0 ≤ n

def exactDebt : ℚ :=
  (raw.borrowShares * (raw.totalBorrowAssets + 1)) / (raw.totalBorrowShares + 10 ^ 6)

def exactWorth : ℚ := (raw.collateral * raw.price) / 10 ^ 36

def debt : Int := ⌈raw.exactDebt⌉

def worth : Int := ⌊raw.exactWorth⌋

variable {raw}

theorem Natural.shares_pos (h : raw.Natural) : 0 < raw.totalBorrowShares + 10 ^ 6 := by
  have := h.totalBorrowShares
  omega

theorem Natural.debt_eq (h : raw.Natural) : raw.debt
    = (raw.borrowShares * (raw.totalBorrowAssets + 1) + (raw.totalBorrowShares + 10 ^ 6) - 1)
      / (raw.totalBorrowShares + 10 ^ 6) := by
  have hceil := @ceil_div (raw.borrowShares * (raw.totalBorrowAssets + 1)) _ h.shares_pos
  push_cast at hceil
  exact hceil

theorem worth_eq : raw.worth = raw.collateral * raw.price / 10 ^ 36 := by
  have hfloor := @floor_div (raw.collateral * raw.price) (10 ^ 36) (by decide)
  push_cast at hfloor
  exact hfloor

theorem Natural.worth_nonneg (h : raw.Natural) : 0 ≤ raw.worth := by
  rw [worth_eq]
  exact Int.ediv_nonneg (Int.mul_nonneg h.collateral h.price) (by decide)

theorem Natural.debt_pos_iff (h : raw.Natural) : 0 < raw.debt ↔ raw.borrowShares ≠ 0 := by
  have hshares := h.borrowShares
  have hassets := h.totalBorrowAssets
  have hden := h.shares_pos
  rw [h.debt_eq]
  constructor
  · rintro hpos hzero
    rw [hzero, Int.zero_mul, Int.ediv_eq_zero_of_lt (by omega) (by omega)] at hpos
    omega
  · intro hne
    have hmul : 1 * 1 ≤ raw.borrowShares * (raw.totalBorrowAssets + 1) :=
      Int.mul_le_mul (by omega) (by omega) (by decide) (by omega)
    have hone : 1 ≤ _ / (raw.totalBorrowShares + 10 ^ 6) :=
      (Int.le_ediv_iff_mul_le hden).mpr (show 1 * _ ≤ raw.borrowShares
        * (raw.totalBorrowAssets + 1) + (raw.totalBorrowShares + 10 ^ 6) - 1 by omega)
    exact hone

theorem Natural.debt_nonneg (h : raw.Natural) : 0 ≤ raw.debt := by
  by_cases hzero : raw.borrowShares = 0
  · rw [debt, exactDebt, hzero]
    simp
  · exact ((h.debt_pos_iff).mpr hzero).le

/-- **The debt that is computed is the exact one, rounded up.** -/
theorem Natural.borrowAssets_eq (h : raw.Natural) : borrowAssetsFromShares raw.borrowShares
    raw.totalBorrowAssets raw.totalBorrowShares = raw.debt := by
  have hshares := h.borrowShares
  have hassets := h.totalBorrowAssets
  have hden := h.shares_pos
  unfold borrowAssetsFromShares
  split
  · rename_i hzero
    have hnot := mt (h.debt_pos_iff).mp (not_not.mpr hzero)
    have := h.debt_nonneg
    omega
  · have hmul := Int.mul_nonneg hshares (show 0 ≤ raw.totalBorrowAssets + 1 by omega)
    rw [h.debt_eq, Int.tdiv_eq_ediv_of_nonneg (by omega)]

theorem Natural.collateralValue_eq (h : raw.Natural) :
    (raw.collateral * raw.price).tdiv ORACLE_PRICE_SCALE = raw.worth := by
  rw [worth_eq, Int.tdiv_eq_ediv_of_nonneg (Int.mul_nonneg h.collateral h.price)]
  rfl

end RawMorphoPosition

open RawMorphoPosition

variable {raw raw' : RawMorphoPosition} {account account' : String} {chainId chainId' : Js.Num}
  {p p' : MorphoPosition}

/-- **What a normalised position is.** -/
theorem normalize_ok (h : raw.Natural) (hp : normalizeMorphoPosition raw account chainId = .ok p) :
    ∃ lltv, bigInt raw.params.lltv = some lltv ∧ 0 ≤ lltv ∧ p.borrowAssets = toString raw.debt ∧
      p.collateralValueInLoan = toString raw.worth ∧ p.ltvBps = ltvBpsOf raw.debt raw.worth ∧
      p.healthFactor = healthFactorOf raw.debt raw.worth lltv := by
  unfold normalizeMorphoPosition at hp
  obtain ⟨d, -, hp⟩ := Evm.bind_eq_ok.mp hp
  obtain ⟨lltv, hlltv, hp⟩ := Evm.bind_eq_ok.mp hp
  obtain ⟨a, -, hp⟩ := Evm.bind_eq_ok.mp hp
  obtain rfl := Except.ok.inj hp
  have hparsed : bigInt raw.params.lltv = some lltv := by
    unfold lltvOf at hlltv
    split at hlltv
    · rename_i n hn
      rw [hn, Except.ok.inj hlltv]
    · cases hlltv
  dsimp only
  rw [h.borrowAssets_eq, h.collateralValue_eq]
  exact ⟨lltv, hparsed, h.lltv lltv hparsed, rfl, rfl, rfl, rfl⟩

/-! ## 4. The two measures of health -/

/-- The measure as a `bigint`. -/
def ltvInt (debt worth : Int) : Int :=
  if 0 < debt then if worth = 0 then 1000000 else debt * 10000 / worth else 0

theorem ltvInt_nonneg {debt worth : Int} (hworth : 0 ≤ worth) : 0 ≤ ltvInt debt worth := by
  unfold ltvInt
  split
  · split
    · decide
    · exact Int.ediv_nonneg (by omega) hworth
  · exact le_rfl

theorem ltvBpsOf_eq {debt worth : Int} : ltvBpsOf debt worth = Num.ofBigInt (ltvInt debt worth) := by
  unfold ltvBpsOf ltvInt
  split
  · rename_i hpos
    split
    · decide
    · rw [Int.tdiv_eq_ediv_of_nonneg (by omega)]
  · decide

/-- The value for worthless collateral is below the measure of collateral worth little. -/
structure Capped (raw raw' : RawMorphoPosition) : Prop where
  worthless : raw'.worth = 0
  worth : 0 < raw.worth
  large : 1000001 * raw.worth ≤ 10000 * raw.debt

/-- No less debt, and no more collateral, under the same limit. -/
structure Riskier (raw raw' : RawMorphoPosition) : Prop where
  lltv : raw'.params.lltv = raw.params.lltv
  debt : raw.debt ≤ raw'.debt
  worth : raw'.worth ≤ raw.worth

theorem ltvInt_mono {debt debt' worth worth' : Int} (hworth' : 0 < worth')
    (hdebt : debt ≤ debt') (hworth : worth' ≤ worth) : ltvInt debt worth ≤ ltvInt debt' worth' := by
  by_cases hpos : 0 < debt
  · have hmeasure : ltvInt debt worth = debt * 10000 / worth := by
      rw [ltvInt, if_pos hpos, if_neg (by omega)]
    have hmeasure' : ltvInt debt' worth' = debt' * 10000 / worth' := by
      rw [ltvInt, if_pos (by omega), if_neg (by omega)]
    rw [hmeasure, hmeasure', Int.le_ediv_iff_mul_le hworth']
    have hnonneg := Int.ediv_nonneg (show 0 ≤ debt * 10000 by omega)
      (show (0 : Int) ≤ worth by omega)
    calc debt * 10000 / worth * worth' ≤ debt * 10000 / worth * worth :=
          Int.mul_le_mul_of_nonneg_left hworth hnonneg
      _ ≤ debt * 10000 := Int.ediv_mul_le _ (by omega)
      _ ≤ debt' * 10000 := by omega
  · have hzero : ltvInt debt worth = 0 := if_neg hpos
    rw [hzero]
    exact ltvInt_nonneg hworth'.le

/-- **The ratio grows with the risk, but for worthless collateral.** -/
theorem ltv_le_iff (h : raw.Natural) (h' : raw'.Natural) (hrisk : Riskier raw raw') :
    (ltvBpsOf raw.debt raw.worth).le (ltvBpsOf raw'.debt raw'.worth) = true ↔
      ¬ Capped raw raw' := by
  have hworth := h.worth_nonneg
  have hdebt := hrisk.debt
  rw [ltvBpsOf_eq, ltvBpsOf_eq]
  constructor
  · rintro hle ⟨hworthless, hpos, hlarge⟩
    have hfull : ltvInt raw'.debt raw'.worth = 1000000 := by
      rw [ltvInt, if_pos (by omega), if_pos hworthless]
    have hmeasure : 1000001 ≤ ltvInt raw.debt raw.worth := by
      rw [ltvInt, if_pos (by omega), if_neg (by omega), Int.le_ediv_iff_mul_le hpos]
      omega
    have hbetween := ofBigInt_le_int (by decide) hmeasure
    have hsmall : Num.ofBigInt 1000001 = .int 1000001 := by decide
    have hcap : Num.ofBigInt 1000000 = .int 1000000 := by decide
    rw [hfull, hcap] at hle
    rw [hsmall] at hbetween
    cases hn : Num.ofBigInt (ltvInt raw.debt raw.worth) with
    | int a =>
      rw [hn] at hle hbetween
      have hlow : 1000001 ≤ a := of_decide_eq_true hbetween
      have hhigh : a ≤ 1000000 := of_decide_eq_true hle
      omega
    | nan =>
      rw [hn] at hle
      cases hle
    | inf negative =>
      rw [hn] at hle hbetween
      cases negative
      · cases hle
      · cases hbetween
  · intro hcapped
    refine ofBigInt_le_int (ltvInt_nonneg hworth) ?_
    obtain hzero | hpos := h'.worth_nonneg.eq_or_lt
    · by_cases hdebtPos : 0 < raw.debt
      · have hfull : ltvInt raw'.debt raw'.worth = 1000000 := by
          rw [ltvInt, if_pos (by omega), if_pos hzero.symm]
        rw [hfull, ltvInt, if_pos hdebtPos]
        split
        · exact le_rfl
        · rename_i hne
          have hworthPos : 0 < raw.worth := by omega
          have hunder : ¬ 1000001 * raw.worth ≤ 10000 * raw.debt :=
            fun hlarge => hcapped ⟨hzero.symm, hworthPos, hlarge⟩
          have hlt := Int.ediv_lt_of_lt_mul hworthPos
            (show raw.debt * 10000 < 1000001 * raw.worth by omega)
          omega
      · have hnone : ltvInt raw.debt raw.worth = 0 := if_neg hdebtPos
        rw [hnone]
        exact ltvInt_nonneg hzero.le
    · exact ltvInt_mono hpos hdebt hrisk.worth

def PositionHealth.NoLarger : PositionHealth → PositionHealth → Prop
  | _, .NO_DEBT => True
  | .NO_DEBT, .KNOWN _ _ => False
  | .KNOWN wad' bps', .KNOWN wad bps => wad' ≤ wad ∧ bps'.le bps = true

theorem healthFactor_noLarger {lltv : Int} (hlltv : 0 ≤ lltv) {debt debt' worth worth' : Int}
    (hworth' : 0 ≤ worth') (hdebt : debt ≤ debt') (hworth : worth' ≤ worth) :
    (healthFactorOf debt' worth' lltv).NoLarger (healthFactorOf debt worth lltv) := by
  unfold healthFactorOf
  by_cases hpos : 0 < debt
  · have hpos' : 0 < debt' := by omega
    rw [if_pos hpos, if_pos hpos']
    have hweighted' := Int.mul_nonneg hworth' hlltv
    have hweighted := Int.mul_nonneg (hworth'.trans hworth) hlltv
    dsimp only
    rw [Int.tdiv_eq_ediv_of_nonneg hweighted, Int.tdiv_eq_ediv_of_nonneg hweighted']
    have hnonneg' := Int.ediv_nonneg hweighted' hpos'.le
    have hwad : worth' * lltv / debt' ≤ worth * lltv / debt := by
      rw [Int.le_ediv_iff_mul_le hpos]
      calc worth' * lltv / debt' * debt ≤ worth' * lltv / debt' * debt' :=
            Int.mul_le_mul_of_nonneg_left hdebt hnonneg'
        _ ≤ worth' * lltv := Int.ediv_mul_le _ hpos'.ne'
        _ ≤ worth * lltv := Int.mul_le_mul_of_nonneg_right hworth hlltv
    refine ⟨hwad, ?_⟩
    rw [Int.tdiv_eq_ediv_of_nonneg (by omega), Int.tdiv_eq_ediv_of_nonneg (by omega)]
    exact ofBigInt_le_int (Int.ediv_nonneg (by omega) (by decide))
      (Int.ediv_le_ediv (by decide) (by omega))
  · rw [if_neg hpos]
    split <;> trivial

theorem healthy_iff {lltv debt worth wad : Int} {bps : Js.Num} (hlltv : 0 ≤ lltv)
    (hworth : 0 ≤ worth) (h : healthFactorOf debt worth lltv = .KNOWN wad bps) :
    WAD ≤ wad ↔ debt ≤ ⌊(worth * lltv : ℚ) / WAD⌋ := by
  have hfloor := @floor_div (worth * lltv) WAD (by decide)
  push_cast at hfloor
  unfold healthFactorOf at h
  split at h
  · rename_i hpos
    obtain ⟨rfl, -⟩ := PositionHealth.KNOWN.inj h
    rw [hfloor, Int.tdiv_eq_ediv_of_nonneg (Int.mul_nonneg hworth hlltv),
      Int.le_ediv_iff_mul_le hpos, Int.le_ediv_iff_mul_le (by decide), Int.mul_comm]
  · cases h

/-! ## 5. The accounts of the market -/

/-- A position agrees with the accounts of the market. -/
structure Agrees (raw : RawMorphoPosition) (p : MorphoPosition) : Prop where
  debt : p.borrowAssets = toString ⌈raw.exactDebt⌉
  healthy : ∀ lltv wad bps, bigInt raw.params.lltv = some lltv →
    p.healthFactor = .KNOWN wad bps →
      (WAD ≤ wad ↔ ⌈raw.exactDebt⌉ ≤ ⌊(⌊raw.exactWorth⌋ * lltv : ℚ) / WAD⌋)
  noDebt : p.healthFactor = .NO_DEBT ↔ raw.borrowShares = 0

structure NoBetter (p p' : MorphoPosition) : Prop where
  health : p'.healthFactor.NoLarger p.healthFactor
  ltv : p.ltvBps.le p'.ltvBps = true

theorem agrees_of_normalize (h : raw.Natural)
    (hp : normalizeMorphoPosition raw account chainId = .ok p) : Agrees raw p := by
  obtain ⟨lltv, hlltv, hnonneg, hdebt, -, -, hhealth⟩ := normalize_ok h hp
  refine ⟨hdebt, ?_, ?_⟩
  · intro l wad bps hl hknown
    obtain rfl := Option.some.inj (hl.symm.trans hlltv)
    rw [hhealth] at hknown
    exact healthy_iff hnonneg h.worth_nonneg hknown
  · have hpos := h.debt_pos_iff
    rw [hhealth, healthFactorOf]
    constructor
    · intro hnone
      split at hnone
      · cases hnone
      · rename_i hnot
        exact not_not.mp (mt hpos.mpr hnot)
    · intro hzero
      rw [if_neg fun hdebt => hpos.mp hdebt hzero]

/-- **A position agrees with the accounts of the market, and a riskier one is never better**, but
    for collateral that became worthless under a debt that was worth over a hundred times as
    much. -/
theorem position_lawful_iff (h : raw.Natural) (h' : raw'.Natural)
    (hp : normalizeMorphoPosition raw account chainId = .ok p)
    (hp' : normalizeMorphoPosition raw' account' chainId' = .ok p') :
    (Agrees raw p ∧ Agrees raw' p' ∧ (Riskier raw raw' → NoBetter p p')) ↔
      (Riskier raw raw' → ¬ Capped raw raw') := by
  obtain ⟨lltv, hlltv, hnonneg, -, -, hltv, hhealth⟩ := normalize_ok h hp
  obtain ⟨lltv', hlltv', -, -, -, hltv', hhealth'⟩ := normalize_ok h' hp'
  constructor
  · rintro ⟨-, -, hbetter⟩ hrisk
    have hle := (hbetter hrisk).ltv
    rw [hltv, hltv'] at hle
    exact (ltv_le_iff h h' hrisk).mp hle
  · intro hcapped
    refine ⟨agrees_of_normalize h hp, agrees_of_normalize h' hp', fun hrisk => ⟨?_, ?_⟩⟩
    · have hsame : lltv' = lltv := by
        rw [hrisk.lltv, hlltv] at hlltv'
        exact (Option.some.inj hlltv').symm
      rw [hhealth, hhealth', hsame]
      exact healthFactor_noLarger hnonneg h'.worth_nonneg hrisk.debt hrisk.worth
    · rw [hltv, hltv']
      exact (ltv_le_iff h h' hrisk).mpr (hcapped hrisk)

/-- A position of a market in which a share is worth one millionth of a unit. -/
def sampleRaw (borrowShares collateral : Int) : RawMorphoPosition where
  marketId := "0x"
  params := ⟨"", "", "", "", "860000000000000000"⟩
  borrowShares := borrowShares
  collateral := collateral
  totalBorrowAssets := 0
  totalBorrowShares := 0
  price := 10 ^ 36
  blockNumber := 1
  timestamp := 0

theorem sample_natural {borrowShares collateral : Int} (hshares : 0 ≤ borrowShares)
    (hcollateral : 0 ≤ collateral) : (sampleRaw borrowShares collateral).Natural where
  borrowShares := hshares
  collateral := hcollateral
  totalBorrowAssets := Int.le_refl 0
  totalBorrowShares := Int.le_refl 0
  price := show (0 : Int) ≤ 10 ^ 36 by decide
  lltv := by
    intro n hn
    have hvalue : bigInt "860000000000000000" = some 860000000000000000 := by decide
    obtain rfl := Option.some.inj (hvalue.symm.trans hn)
    decide

def sampleAccount : String := "0x0000000000000000000000000000000000005e1f"

theorem sample_normalizes (borrowShares collateral : Int) : ∃ p,
    normalizeMorphoPosition (sampleRaw borrowShares collateral) sampleAccount (.int 1) = .ok p := by
  have hdeployed : ∃ d, morphoDeploymentFor (.int 1) = .ok d := ⟨_, rfl⟩
  obtain ⟨d, hd⟩ := hdeployed
  have haddress : addressOf sampleAccount = some (BitVec.ofNat 160 0x5e1f) := by decide
  have haccount := checksummed_eq_ok.mpr ⟨_, haddress, rfl⟩
  have hlltv : lltvOf (sampleRaw borrowShares collateral) = .ok 860000000000000000 := by
    have hvalue : bigInt (sampleRaw borrowShares collateral).params.lltv
        = some 860000000000000000 := by
      show bigInt "860000000000000000" = _
      decide
    unfold lltvOf
    rw [hvalue]
  unfold normalizeMorphoPosition
  rw [hd, hlltv, haccount]
  exact ⟨_, rfl⟩

theorem sample_debt : (sampleRaw (10 ^ 15) 1).debt = 10 ^ 9 ∧ (sampleRaw (10 ^ 15) 0).debt = 10 ^ 9 := by
  rw [(sample_natural (by decide) (by decide)).debt_eq,
    (sample_natural (by decide) (by decide)).debt_eq]
  decide

theorem sample_worth : (sampleRaw (10 ^ 15) 1).worth = 1 ∧ (sampleRaw (10 ^ 15) 0).worth = 0 := by
  rw [worth_eq, worth_eq]
  decide

/-- A position that lost a quarter of its collateral: of 4 units with a debt of 2, 3 are left. -/
theorem position_lawful_lost : ∃ p p', Agrees (sampleRaw 2000000 4) p ∧
    Agrees (sampleRaw 2000000 3) p' ∧
    (Riskier (sampleRaw 2000000 4) (sampleRaw 2000000 3) → NoBetter p p') := by
  obtain ⟨p, hp⟩ := sample_normalizes 2000000 4
  obtain ⟨p', hp'⟩ := sample_normalizes 2000000 3
  have hworth : (sampleRaw 2000000 3).worth = 3 := by
    rw [worth_eq]
    decide
  refine ⟨p, p', (position_lawful_iff (sample_natural (by decide) (by decide))
    (sample_natural (by decide) (by decide)) hp hp').mpr fun _ hcapped => ?_⟩
  have := hcapped.worthless
  omega

/-- The last unit of collateral under a debt of `10 ^ 9` is lost, and the ratio falls from
    `10 ^ 13` to `10 ^ 6` basis points. -/
theorem worthless_collateral_better : ∃ p p',
    normalizeMorphoPosition (sampleRaw (10 ^ 15) 1) sampleAccount (.int 1) = .ok p ∧
    normalizeMorphoPosition (sampleRaw (10 ^ 15) 0) sampleAccount (.int 1) = .ok p' ∧
    Riskier (sampleRaw (10 ^ 15) 1) (sampleRaw (10 ^ 15) 0) ∧ ¬ NoBetter p p' := by
  obtain ⟨hdebt, hdebt'⟩ := sample_debt
  obtain ⟨hworth, hworth'⟩ := sample_worth
  have h := @sample_natural (10 ^ 15) 1 (by decide) (by decide)
  have h' := @sample_natural (10 ^ 15) 0 (by decide) (by decide)
  obtain ⟨p, hp⟩ := sample_normalizes (10 ^ 15) 1
  obtain ⟨p', hp'⟩ := sample_normalizes (10 ^ 15) 0
  have hrisk : Riskier (sampleRaw (10 ^ 15) 1) (sampleRaw (10 ^ 15) 0) :=
    ⟨rfl, by omega, by omega⟩
  refine ⟨p, p', hp, hp', hrisk, fun hbetter => ?_⟩
  obtain ⟨-, -, -, -, -, hltv, -⟩ := normalize_ok h hp
  obtain ⟨-, -, -, -, -, hltv', -⟩ := normalize_ok h' hp'
  have hle := hbetter.ltv
  rw [hltv, hltv'] at hle
  exact (ltv_le_iff h h' hrisk).mp hle ⟨hworth', by omega, by omega⟩

end Morpho

end ContextLock.Execution
