/-
  Subject:   The lending and staking adapters together: when an accepted call is lawful, and which
             intents are built into a call that is accepted.
-/
import ContextLock.Execution.Aave
import ContextLock.Execution.Compound
import ContextLock.Execution.Lido
import ContextLock.Execution.Morpho

namespace ContextLock.Execution

open Js Evm

/-! ## 1. Submissions -/

/-- What viem decodes calldata to, with the ABI of each protocol. -/
structure Decoders where
  aave : String → Except String Aave.PoolCall
  morpho : String → Except String Morpho.MorphoCall
  compound : String → Except String Compound.CometCall
  lido : String → Except String Lido.StethCall

/-- A prepared transaction with the intent and the constraints it is validated against. -/
inductive Submission where
  | aave (prepared : LendingPrepared) (intent : Aave.AaveIntent) (c : Aave.AaveConstraints)
  | morpho (prepared : LendingPrepared) (intent : Morpho.MorphoIntent)
      (c : Morpho.MorphoConstraints)
  | compound (prepared : LendingPrepared) (intent : Compound.CompoundIntent)
      (c : Compound.CompoundConstraints)
  | lido (prepared : LendingPrepared) (intent : Lido.LidoIntent) (c : Lido.LidoConstraints)

namespace Submission

/-- The adapter decodes the transaction and reports no problem. -/
def Accepted (viem : Decoders) : Submission → Prop
  | aave prepared intent c => Aave.Accepted viem.aave prepared intent c
  | morpho prepared intent c => Morpho.Accepted viem.morpho prepared intent c
  | compound prepared intent c => Compound.Accepted viem.compound prepared intent c
  | lido prepared intent c => Lido.Accepted viem.lido prepared intent c

/-- The call does what the intent asks for, and no more than the constraints permit. -/
def DoesAsAsked (viem : Decoders) : Submission → Prop
  | aave prepared intent c => Aave.DoesAsAsked viem.aave prepared intent c
  | morpho prepared intent c => Morpho.DoesAsAsked viem.morpho prepared intent c
  | compound prepared intent c => Compound.DoesAsAsked viem.compound prepared intent c
  | lido prepared intent c => Lido.DoesAsAsked viem.lido prepared intent c

/-- What the adapter does not compare: the value of a lending call; for Compound and Morpho a list
    of recipients; for Lido that list, and what a transfer or an approval names. -/
def InOrder (viem : Decoders) : Submission → Prop
  | aave prepared _ _ => weiOf prepared.value = some 0
  | morpho prepared _ c => Morpho.InOrder viem.morpho prepared c
  | compound prepared intent c => weiOf prepared.value = some 0 ∧
      ∀ recipients, c.allowedRecipients = .listed recipients → listedIn recipients intent.account
  | lido prepared intent c => Lido.InOrder viem.lido prepared intent c

end Submission

/-- **An accepted call is lawful iff what its adapter does not compare is in order.** -/
theorem submission_lawful_iff (viem : Decoders) (s : Submission) (h : s.Accepted viem) :
    s.DoesAsAsked viem ↔ s.InOrder viem := by
  cases s with
  | aave prepared intent c => exact Aave.lawful_iff h
  | morpho prepared intent c => exact Morpho.lawful_iff h
  | compound prepared intent c => exact Compound.lawful_iff h
  | lido prepared intent c => exact Lido.lawful_iff h

/-! ## 2. A repayment for an account outside the list -/

/-- USDC of the Sepolia market, repaid for an account. -/
def repayCalldata : String :=
  "0x4232cd63" ++
    "000000000000000000000000000000000000000000000000000000000000dead" ++
    "0000000000000000000000001c7d4b196cb0c7b01d743fbc6116a902379c7238" ++
    "000000000000000000000000000000000000000000000000000000001dcd6500"

def repayCall : Compound.CometCall :=
  .supplyTo 0xdead 0x1c7D4B196Cb0C7B01d743Fbc6116a902379C7238 500000000

def decodeRepay (data : String) : Except String Compound.CometCall :=
  if data = repayCalldata then .ok repayCall else .error "unknown function signature"

def repayDecoders : Decoders where
  aave := fun _ => .error "unknown function signature"
  morpho := fun _ => .error "unknown function signature"
  compound := decodeRepay
  lido := fun _ => .error "unknown function signature"

def repayPrepared : LendingPrepared where
  to' := "0xAec1F48e02Cfb822Be958B68C7957156EB3F0b6e"
  data := repayCalldata
  value := "0"
  chainId := .int 11155111
  summary := ⟨"COMPOUND_REPAY", "0x000000000000000000000000000000000000dEaD", "500000000"⟩

def repayIntent : Compound.CompoundIntent where
  action := .COMPOUND_REPAY
  chainId := .int 11155111
  account := "0x000000000000000000000000000000000000dEaD"
  asset := "0x1c7D4B196Cb0C7B01d743Fbc6116a902379C7238"
  amount := "500000000"

def repayConstraints (recipients : List String) : Compound.CompoundConstraints where
  chainId := .int 11155111
  allowedTargets := ["0xAec1F48e02Cfb822Be958B68C7957156EB3F0b6e"]
  allowedRecipients := .listed recipients
  owner := "0x0000000000000000000000000000000000005e1f"
  maxSlippageBps := none
  allowUnlimitedApprovals := false
  maxApprovalAmount := none
  maxQuoteAgeMs := .int 60000
  permittedActions := some [.COMPOUND_REPAY]

def repaySubmission (recipients : List String) : Submission :=
  .compound repayPrepared repayIntent (repayConstraints recipients)

theorem supplyAction_repay :
    Compound.supplyAction (Compound.baseOf (.int 11155111))
      0x1c7D4B196Cb0C7B01d743Fbc6116a902379C7238 = .COMPOUND_REPAY := by
  have hbase : Compound.baseOf (.int 11155111) =
      some "0x1c7D4B196Cb0C7B01d743Fbc6116a902379C7238" := rfl
  have hsame : sameText (getAddress 0x1c7D4B196Cb0C7B01d743Fbc6116a902379C7238)
      "0x1c7D4B196Cb0C7B01d743Fbc6116a902379C7238" := sameText_getAddress.mpr (by decide)
  unfold Compound.supplyAction Compound.isBaseAsset
  rw [hbase, Option.any_some, decide_eq_true hsame, if_pos rfl]

def repayReading : Compound.Reading where
  function := "supplyTo"
  actionType := Compound.supplyAction (Compound.baseOf (.int 11155111))
    0x1c7D4B196Cb0C7B01d743Fbc6116a902379C7238
  beneficiary := some 0xdead
  asset := 0x1c7D4B196Cb0C7B01d743Fbc6116a902379C7238
  amount := 500000000
  receivesFunds := false
  creditsSender := false

theorem decodeRepay_calldata : repayDecoders.compound repayPrepared.data = .ok repayCall := by
  have hdecode : decodeRepay repayCalldata = .ok repayCall := if_pos rfl
  have hdecoder : repayDecoders.compound = decodeRepay := rfl
  rw [hdecoder]
  exact hdecode

theorem accepted_repay (recipients : List String) :
    (repaySubmission recipients).Accepted repayDecoders := by
  have htarget : listedIn ["0xAec1F48e02Cfb822Be958B68C7957156EB3F0b6e"]
      (getAddress 0xAec1F48e02Cfb822Be958B68C7957156EB3F0b6e) :=
    listedIn_singleton.mpr (sameText_getAddress.mpr (by decide))
  have hmem : Compound.supplyAction (Compound.baseOf (.int 11155111))
      0x1c7D4B196Cb0C7B01d743Fbc6116a902379C7238 ∈ [Compound.CompoundActionKind.COMPOUND_REPAY] := by
    rw [supplyAction_repay]
    exact List.mem_singleton.mpr rfl
  have hasset : Names "0x1c7D4B196Cb0C7B01d743Fbc6116a902379C7238"
      0x1c7D4B196Cb0C7B01d743Fbc6116a902379C7238 := by decide
  have hamount : "500000000" = toString (500000000 : Uint256).toNat := by decide
  have haccount : Names "0x000000000000000000000000000000000000dEaD" 0xdead := by decide
  have hchain : Js.Num.strictEq (.int 11155111) (.int 11155111) = true := by decide
  have hcompared : Compound.Compared repayPrepared 0xAec1F48e02Cfb822Be958B68C7957156EB3F0b6e
      repayReading repayIntent (repayConstraints recipients) :=
    ⟨hmem, supplyAction_repay, hchain, htarget, rfl, hasset, hamount, 0xdead, rfl, haccount,
      fun hself => (by cases hself)⟩
  have hread : Compound.readingOf (Compound.baseOf (.int 11155111)) repayCall = .ok repayReading :=
    rfl
  have hto : addressOf "0xAec1F48e02Cfb822Be958B68C7957156EB3F0b6e" =
      some 0xAec1F48e02Cfb822Be958B68C7957156EB3F0b6e := by decide
  exact Compound.accepted_iff.mpr ⟨repayCall, repayReading, _, decodeRepay_calldata, hread, hto,
    hcompared⟩

/-- The account credited is not among the recipients the constraints list. -/
theorem unlisted_repay_counterexample : ∃ viem s, Submission.Accepted viem s ∧
    Compound.normalizeIntent repayIntent = [] ∧ ¬ Submission.DoesAsAsked viem s := by
  refine ⟨repayDecoders, repaySubmission ["0x0000000000000000000000000000000000005e1f"],
    accepted_repay _, by decide, fun h => ?_⟩
  have hopen := (Compound.lawful_iff (accepted_repay _)).mp h
  exact absurd (hopen.2 _ rfl) (by decide)

theorem submission_lawful_iff_repay :
    (repaySubmission ["0x000000000000000000000000000000000000dEaD"]).DoesAsAsked
      repayDecoders := by
  refine (submission_lawful_iff _ _ (accepted_repay _)).mpr ⟨by decide, fun recipients hlist => ?_⟩
  obtain rfl := Recipients.listed.inj hlist
  decide

/-! ## 3. Requests -/

/-- What viem encodes and decodes calls to, with the ABI of each protocol. -/
structure Codecs where
  encodeAave : Aave.PoolCall → String
  decodeAave : String → Except String Aave.PoolCall
  encodeMorpho : Morpho.MorphoCall → String
  decodeMorpho : String → Except String Morpho.MorphoCall
  encodeCompound : Compound.CometCall → String
  decodeCompound : String → Except String Compound.CometCall

/-- An intent with the constraints its call is validated against. -/
inductive Request where
  | aave (intent : Aave.AaveIntent) (c : Aave.AaveConstraints)
  | morpho (intent : Morpho.MorphoIntent) (c : Morpho.MorphoConstraints)
  | compound (intent : Compound.CompoundIntent) (c : Compound.CompoundConstraints)

namespace Request

/-- The intent is accepted, for a supported chain, and the constraints are made for it. -/
def Suited : Request → Prop
  | aave intent c => Aave.normalizeIntent intent = [] ∧ intent.action ∈ Aave.permitted c ∧
      ∃ d, Aave.aaveDeploymentFor intent.chainId = .ok d ∧
        Suits c.toExecutionConstraints intent.chainId intent.account d.pool
  | morpho intent c => Morpho.normalizeIntent intent = .ok [] ∧
      intent.action ∈ Morpho.permitted c ∧ ∃ d, Morpho.morphoDeploymentFor intent.chainId = .ok d ∧
        Suits c.toExecutionConstraints intent.chainId intent.account d.morpho
  | compound intent c => Compound.normalizeIntent intent = [] ∧
      intent.action ∈ Compound.permitted c ∧
      ∃ d, Compound.compoundDeploymentFor intent.chainId = .ok d ∧
        Suits c.toExecutionConstraints intent.chainId intent.account d.comet

/-- Decoding gives back the call that was encoded. -/
def Inverse (viem : Codecs) : Request → Prop
  | aave intent _ => ∀ call, Aave.buildCall intent = .ok call →
      viem.decodeAave (viem.encodeAave call) = .ok call
  | morpho intent _ => ∀ call, Morpho.buildCall intent = .ok call →
      viem.decodeMorpho (viem.encodeMorpho call) = .ok call
  | compound intent _ => ∀ call, Compound.buildCall intent = .ok call →
      viem.decodeCompound (viem.encodeCompound call) = .ok call

/-- What is built is decoded as the action of the intent, with its amount, and accepted. -/
def RoundTrips (viem : Codecs) : Request → Prop
  | aave intent c => Aave.RoundTrips viem.encodeAave viem.decodeAave intent c
  | morpho intent c => Morpho.RoundTrips viem.encodeMorpho viem.decodeMorpho intent c
  | compound intent c => Compound.RoundTrips viem.encodeCompound viem.decodeCompound intent c

def Recognised : Request → Prop
  | aave intent _ => Aave.Recognised intent
  | morpho intent _ => Morpho.Recognised intent
  | compound intent _ => Compound.Recognised intent

end Request

/-- **A request goes round iff its intent is one of those that are recognised.** -/
theorem request_roundTrips_iff (viem : Codecs) (r : Request) (h : r.Suited)
    (hinverse : r.Inverse viem) : r.RoundTrips viem ↔ r.Recognised := by
  cases r with
  | aave intent c =>
    obtain ⟨hnormal, hpermitted, d, hd, hsuits⟩ := h
    exact Aave.roundTrips_iff hnormal hd hsuits hpermitted hinverse
  | morpho intent c =>
    obtain ⟨hnormal, hpermitted, d, hd, hsuits⟩ := h
    exact Morpho.roundTrips_iff hnormal hd hsuits hpermitted hinverse
  | compound intent c =>
    obtain ⟨hnormal, hpermitted, d, hd, hsuits⟩ := h
    exact Compound.roundTrips_iff hnormal hd hsuits hpermitted hinverse

/-! ## 4. A collateral flag, and a repayment -/

/-- An intent for USDC on Sepolia, and the constraints made for it. -/
def aaveRequest (action : Aave.AaveActionKind) : Request :=
  .aave ⟨action, .int 11155111, "0x0000000000000000000000000000000000005e1f",
      "0x1c7D4B196Cb0C7B01d743Fbc6116a902379C7238", "500000000", none⟩
    { chainId := .int 11155111
      allowedTargets := ["0x6Ae43d3271ff6888e7Fc43Fd7321a503ff738951"]
      allowedRecipients := .selfOnly
      owner := "0x0000000000000000000000000000000000005e1f"
      maxSlippageBps := none
      allowUnlimitedApprovals := false
      maxApprovalAmount := none
      maxQuoteAgeMs := .int 60000
      permittedActions := some [action] }

theorem suited_aaveRequest (action : Aave.AaveActionKind) : (aaveRequest action).Suited := by
  have hnormal : Aave.normalizeIntent ⟨.SUPPLY, .int 11155111,
      "0x0000000000000000000000000000000000005e1f", "0x1c7D4B196Cb0C7B01d743Fbc6116a902379C7238",
      "500000000", none⟩ = [] := by decide
  refine ⟨hnormal, List.mem_singleton.mpr rfl,
    ⟨11155111, "0x6Ae43d3271ff6888e7Fc43Fd7321a503ff738951"⟩, rfl, ?_, ?_, rfl, rfl⟩
  · exact (by decide : Js.Num.strictEq (.int 11155111) (.int 11155111) = true)
  · exact listedIn_singleton.mpr rfl

/-- The calls of a collateral flag and of a repayment, encoded. -/
def aaveCalldata : Aave.PoolCall → String
  | .setUserUseReserveAsCollateral _ _ => "0x5a3b74b9" ++
      "0000000000000000000000001c7d4b196cb0c7b01d743fbc6116a902379c7238" ++
      "0000000000000000000000000000000000000000000000000000000000000001"
  | _ => "0x573ade81" ++
      "0000000000000000000000001c7d4b196cb0c7b01d743fbc6116a902379c7238" ++
      "000000000000000000000000000000000000000000000000000000001dcd6500" ++
      "0000000000000000000000000000000000000000000000000000000000000002" ++
      "0000000000000000000000000000000000000000000000000000000000005e1f"

def flagCall : Aave.PoolCall :=
  .setUserUseReserveAsCollateral 0x1c7D4B196Cb0C7B01d743Fbc6116a902379C7238 true

def aaveRepayCall : Aave.PoolCall :=
  .repay 0x1c7D4B196Cb0C7B01d743Fbc6116a902379C7238 500000000 2 0x5e1f

def decodeAaveCalldata (data : String) : Except String Aave.PoolCall :=
  if data = aaveCalldata flagCall then .ok flagCall
  else if data = aaveCalldata aaveRepayCall then .ok aaveRepayCall
  else .error "unknown function signature"

def aaveCodecs : Codecs where
  encodeAave := aaveCalldata
  decodeAave := decodeAaveCalldata
  encodeMorpho := fun _ => ""
  decodeMorpho := fun _ => .error "unknown function signature"
  encodeCompound := fun _ => ""
  decodeCompound := fun _ => .error "unknown function signature"

theorem decodeAave_flag : aaveCodecs.decodeAave (aaveCodecs.encodeAave flagCall) = .ok flagCall := by
  have hdecode : decodeAaveCalldata (aaveCalldata flagCall) = .ok flagCall := if_pos rfl
  have hdecoder : aaveCodecs.decodeAave = decodeAaveCalldata := rfl
  rw [hdecoder]
  exact hdecode

theorem decodeAave_repay :
    aaveCodecs.decodeAave (aaveCodecs.encodeAave aaveRepayCall) = .ok aaveRepayCall := by
  have hne : aaveCalldata aaveRepayCall ≠ aaveCalldata flagCall := by decide
  have hdecode : decodeAaveCalldata (aaveCalldata aaveRepayCall) = .ok aaveRepayCall := by
    unfold decodeAaveCalldata
    rw [if_neg hne, if_pos rfl]
  have hdecoder : aaveCodecs.decodeAave = decodeAaveCalldata := rfl
  rw [hdecoder]
  exact hdecode

theorem inverse_flag : (aaveRequest .SET_COLLATERAL).Inverse aaveCodecs := by
  intro call hcall
  obtain rfl : flagCall = call := Except.ok.inj hcall
  exact decodeAave_flag

theorem inverse_repay : (aaveRequest .REPAY).Inverse aaveCodecs := by
  intro call hcall
  obtain rfl : aaveRepayCall = call := Except.ok.inj hcall
  exact decodeAave_repay

/-- A collateral flag is decoded with the amount zero, which no intent may have. -/
theorem collateral_flag_counterexample : ∃ viem r, Request.Suited r ∧ Request.Inverse viem r ∧
    ¬ Request.RoundTrips viem r := by
  refine ⟨aaveCodecs, aaveRequest .SET_COLLATERAL, suited_aaveRequest _, inverse_flag, fun h => ?_⟩
  obtain ⟨hnormal, hpermitted, d, hd, hsuits⟩ := suited_aaveRequest .SET_COLLATERAL
  have hrecognised := (Aave.roundTrips_iff hnormal hd hsuits hpermitted inverse_flag).mp h
  exact hrecognised.action rfl

theorem request_roundTrips_iff_repay : (aaveRequest .REPAY).RoundTrips aaveCodecs :=
  (request_roundTrips_iff aaveCodecs _ (suited_aaveRequest .REPAY) inverse_repay).mpr
    ⟨by decide, by decide, by decide, 2, rfl, fun _ => rfl⟩

end ContextLock.Execution
