/-
  Subject:   The lifecycle of a tracked transaction, and what a reorganization leaves behind.

  Each observation brings the receipt of the transaction, if there is one, and the head of the
  chain. Beside the tracked record stands what was observed: the last observation, and the
  last receipt seen in any.
-/
import ContextLock.Js.Amount
import ContextLock.Machine.Transition

namespace ContextLock.Control

open Js Machine

/-! ## 1. The record -/

inductive TxLifecycle where
  | SUBMITTED
  | MINED
  | CONFIRMING
  | FINALIZED
  | REORGED
  | REVERTED
  deriving DecidableEq

inductive ReceiptStatus where
  | success
  | reverted

structure TxReceipt where
  status : ReceiptStatus
  blockNumber : Nat
  gasUsed : Nat
  effectiveGasPrice : Nat

structure TrackedTransaction where
  txHash : String
  chainId : Nat
  state : TxLifecycle
  blockNumber : Option String
  confirmations : Nat
  gasUsed : Option String
  effectiveGasPriceWei : Option String
  actualNativeCostWei : Option String
  correlationId : String
  reorgedFromBlock : Option String

structure FinalityPolicy where
  confirmations : Int
  reorgOverlapBlocks : Int

def DEFAULT_FINALITY : FinalityPolicy := ⟨12, 32⟩

/-- The event of a correction; `source` and `target` are its `from` and `to`. -/
structure Correction where
  source : TxLifecycle
  target : TxLifecycle
  reason : String

/-! ## 2. One observation -/

def confirmationsAt (blockNumber headBlock : Nat) : Nat :=
  if blockNumber ≤ headBlock then headBlock - blockNumber + 1 else 0

/-- The record with what a receipt says. -/
def TrackedTransaction.withReceipt (tx : TrackedTransaction) (receipt : TxReceipt)
    (headBlock : Nat) (state : TxLifecycle) : TrackedTransaction :=
  { tx with
    state
    blockNumber := some (toString receipt.blockNumber)
    confirmations := confirmationsAt receipt.blockNumber headBlock
    gasUsed := some (toString receipt.gasUsed)
    effectiveGasPriceWei := some (toString receipt.effectiveGasPrice)
    actualNativeCostWei := some (toString (receipt.gasUsed * receipt.effectiveGasPrice)) }

/-- `movedBlock`: a block was known, and it is another one. -/
def TrackedTransaction.movedTo (tx : TrackedTransaction) (blockNumber : Nat) : Bool :=
  tx.blockNumber.isSome && tx.blockNumber ≠ some (toString blockNumber)

/-- The states in which the code expects a receipt. -/
def MINED_STATES : List TxLifecycle := [.MINED, .CONFIRMING, .FINALIZED]

def advanceTransaction (current : TrackedTransaction) (receipt : Option TxReceipt)
    (headBlock : Nat) (policy : FinalityPolicy) : TrackedTransaction × Option Correction :=
  match receipt with
  | none =>
    if current.state ∈ MINED_STATES then
      ({ current with
          state := .REORGED, reorgedFromBlock := current.blockNumber, confirmations := 0 },
        some ⟨current.state, .REORGED, "no receipt for " ++ current.txHash
          ++ "; it was previously seen in block " ++ current.blockNumber.getD "null"⟩)
    else (current, none)
  | some receipt =>
    match receipt.status with
    | .reverted =>
      (current.withReceipt receipt headBlock .REVERTED,
        if current.state = .REVERTED then none
        else some ⟨current.state, .REVERTED,
          "transaction reverted in block " ++ toString receipt.blockNumber⟩)
    | .success =>
      let confirmations := confirmationsAt receipt.blockNumber headBlock
      let state := if policy.confirmations ≤ confirmations then .FINALIZED else .CONFIRMING
      let next := current.withReceipt receipt headBlock state
      if current.movedTo receipt.blockNumber then
        ({ next with reorgedFromBlock := current.blockNumber },
          some ⟨current.state, state, "transaction moved from block "
            ++ current.blockNumber.getD "null" ++ " to " ++ toString receipt.blockNumber⟩)
      else (next,
        if current.state = state then none
        else some ⟨current.state, state, toString confirmations ++ " confirmation(s)"⟩)

/-! ## 3. A transaction that is watched -/

structure Observation where
  receipt : Option TxReceipt
  headBlock : Nat

/-- A record, and what was observed of the transaction. -/
structure Watch where
  tx : TrackedTransaction
  last : Option Observation
  /-- The last receipt seen, in any observation. -/
  seen : Option TxReceipt

/-- The last observation showed a receipt. -/
def Watch.present (w : Watch) : Bool := (w.last.bind (·.receipt)).isSome

def Watch.observe (policy : FinalityPolicy) (w : Watch) (o : Observation) : Watch where
  tx := (advanceTransaction w.tx o.receipt o.headBlock policy).1
  last := some o
  seen := o.receipt.or w.seen

def Watch.correction (policy : FinalityPolicy) (w : Watch) (o : Observation) :
    Option Correction := (advanceTransaction w.tx o.receipt o.headBlock policy).2

def Watch.step (policy : FinalityPolicy) (w : Watch) (o : Observation) : Option Watch :=
  some (w.observe policy o)

structure Watch.Submitted (w : Watch) : Prop where
  state : w.tx.state = .SUBMITTED
  block : w.tx.blockNumber = none
  last : w.last = none
  seen : w.seen = none

/-- What the record says of what was observed. -/
structure Watched (policy : FinalityPolicy) (w : Watch) : Prop where
  block : w.tx.blockNumber = w.seen.map fun r => toString r.blockNumber
  mined : w.tx.state ∈ MINED_STATES → ∃ r, w.seen = some r ∧ r.status = .success
  reverted : w.tx.state = .REVERTED ↔ ∃ r, w.seen = some r ∧ r.status = .reverted
  present : w.present = true → w.tx.state ∈ MINED_STATES ∨ w.tx.state = .REVERTED
  reorged : w.tx.state = .REORGED → w.tx.reorgedFromBlock = w.tx.blockNumber
  final : w.tx.state = .FINALIZED → ∃ o r, w.last = some o ∧ o.receipt = some r ∧
    r.status = .success ∧ policy.confirmations ≤ confirmationsAt r.blockNumber o.headBlock

section Watched

variable {policy : FinalityPolicy} {w : Watch} {o : Observation}

theorem watched_submitted (h : w.Submitted) : Watched policy w where
  block := by rw [h.block, h.seen]; rfl
  mined hm := by rw [h.state] at hm; exact absurd hm (by decide)
  reverted := by simp [h.state, h.seen]
  present hp := by simp [Watch.present, h.last] at hp
  reorged hs := by rw [h.state] at hs; cases hs
  final hs := by rw [h.state] at hs; cases hs

theorem watched_absent (hw : Watched policy w) (ho : o.receipt = none) :
    Watched policy (w.observe policy o) := by
  have hseen : (w.observe policy o).seen = w.seen := by simp [Watch.observe, ho]
  have hpresent : (w.observe policy o).present = false := by simp [Watch.present, Watch.observe, ho]
  by_cases hm : w.tx.state ∈ MINED_STATES
  · have htx : (w.observe policy o).tx = { w.tx with
        state := .REORGED, reorgedFromBlock := w.tx.blockNumber, confirmations := 0 } := by
      simp [Watch.observe, ho, advanceTransaction, hm]
    obtain ⟨r, hr, hsuccess⟩ := hw.mined hm
    refine ⟨by rw [hseen, htx]; exact hw.block, ?_, ?_, by simp [hpresent], ?_, ?_⟩
    · rw [htx]
      show TxLifecycle.REORGED ∈ MINED_STATES → _
      exact fun h => absurd h (by decide)
    · rw [htx, hseen, hr]
      simp [hsuccess]
    · rw [htx]
      exact fun _ => rfl
    · rw [htx]
      exact fun h => by cases h
  · have htx : (w.observe policy o).tx = w.tx := by
      simp [Watch.observe, ho, advanceTransaction, hm]
    refine ⟨by rw [hseen, htx]; exact hw.block, ?_, ?_, by simp [hpresent], ?_, ?_⟩
    · rw [htx]
      exact fun h => absurd h hm
    · rw [htx, hseen]
      exact hw.reverted
    · rw [htx]
      exact hw.reorged
    · rw [htx]
      exact fun h => absurd (by rw [h]; decide) hm

theorem watched_reverted {r : TxReceipt} (ho : o.receipt = some r) (hr : r.status = .reverted) :
    Watched policy (w.observe policy o) := by
  have hseen : (w.observe policy o).seen = some r := by simp [Watch.observe, ho]
  have htx : (w.observe policy o).tx = w.tx.withReceipt r o.headBlock .REVERTED := by
    simp [Watch.observe, ho, advanceTransaction, hr]
  refine ⟨by rw [htx, hseen]; rfl, ?_, ?_, fun _ => Or.inr (by rw [htx]; rfl), ?_, ?_⟩
  · rw [htx]
    show TxLifecycle.REVERTED ∈ MINED_STATES → _
    exact fun h => absurd h (by decide)
  · rw [htx, hseen]
    exact ⟨fun _ => ⟨r, rfl, hr⟩, fun _ => rfl⟩
  · rw [htx]
    exact fun h => by cases h
  · rw [htx]
    exact fun h => by cases h

def successState (policy : FinalityPolicy) (r : TxReceipt) (headBlock : Nat) : TxLifecycle :=
  if policy.confirmations ≤ confirmationsAt r.blockNumber headBlock then .FINALIZED
  else .CONFIRMING

theorem observe_success {r : TxReceipt} (ho : o.receipt = some r) (hr : r.status = .success) :
    (w.observe policy o).tx = { w.tx.withReceipt r o.headBlock (successState policy r o.headBlock)
      with reorgedFromBlock := if w.tx.movedTo r.blockNumber then w.tx.blockNumber
        else w.tx.reorgedFromBlock } := by
  simp only [Watch.observe, ho, advanceTransaction, hr, successState]
  by_cases hmoved : w.tx.movedTo r.blockNumber = true
  · rw [if_pos hmoved, if_pos hmoved]
  · rw [if_neg hmoved, if_neg hmoved]
    rfl

theorem watched_success {r : TxReceipt} (ho : o.receipt = some r) (hr : r.status = .success) :
    Watched policy (w.observe policy o) := by
  have hseen : (w.observe policy o).seen = some r := by simp [Watch.observe, ho]
  have htx := @observe_success policy w _ _ ho hr
  have hstate : (w.observe policy o).tx.state = successState policy r o.headBlock := by rw [htx]; rfl
  have hcases : successState policy r o.headBlock = .FINALIZED ∧
      policy.confirmations ≤ confirmationsAt r.blockNumber o.headBlock ∨
      successState policy r o.headBlock = .CONFIRMING := by
    unfold successState
    split
    · rename_i h
      exact Or.inl ⟨rfl, h⟩
    · exact Or.inr rfl
  refine ⟨by rw [htx, hseen]; rfl, fun _ => ⟨r, hseen, hr⟩, ?_, fun _ => Or.inl ?_, ?_, ?_⟩
  · rw [hstate, hseen]
    obtain ⟨h, -⟩ | h := hcases <;> simp [h, hr]
  · rw [hstate]
    obtain ⟨h, -⟩ | h := hcases <;> rw [h] <;> decide
  · rw [hstate]
    obtain ⟨h, -⟩ | h := hcases <;> rw [h] <;> exact fun h => by cases h
  · rw [hstate]
    obtain ⟨-, h⟩ | h := hcases
    · exact fun _ => ⟨o, r, rfl, ho, hr, h⟩
    · rw [h]
      exact fun h => by cases h

theorem watched_observe (hw : Watched policy w) : Watched policy (w.observe policy o) := by
  cases ho : o.receipt with
  | none => exact watched_absent hw ho
  | some r =>
    cases hr : r.status with
    | success => exact watched_success ho hr
    | reverted => exact watched_reverted ho hr

theorem watched_reaches {w₀ : Watch} (h₀ : w₀.Submitted)
    (h : Reaches (Watch.step policy) w₀ w) : Watched policy w :=
  h.invariant (fun s a s' hs hstep => by
    cases hstep
    exact watched_observe hs) (watched_submitted h₀)

end Watched

/-! ## 4. Receipts that are gone or in another block -/

/-- A receipt seen before is gone, or in another block. -/
def Watch.Leaves (w : Watch) (o : Observation) : Prop :=
  ∃ r, w.seen = some r ∧
    ((o.receipt = none ∧ w.present = true) ∨
      ∃ r', o.receipt = some r' ∧ r'.blockNumber ≠ r.blockNumber)

def Watch.Corrects (policy : FinalityPolicy) (w : Watch) (o : Observation) : Prop :=
  w.correction policy o ≠ none ∧
    (w.observe policy o).tx.reorgedFromBlock = w.seen.map fun r => toString r.blockNumber

/-- No reverted receipt disappears, and a receipt that reverted in another block is not the
    first sign that the transaction left its block. -/
structure Watch.Noticed (w : Watch) (o : Observation) : Prop where
  gone : o.receipt = none → w.tx.state ≠ .REVERTED
  moved : ∀ r, o.receipt = some r → r.status = .reverted →
    w.tx.state ≠ .REVERTED ∧ w.tx.reorgedFromBlock = w.tx.blockNumber

section Laws

variable {policy : FinalityPolicy} {w : Watch} {o : Observation}

theorem movedTo_of_ne (hw : Watched policy w) {r r' : TxReceipt} (hr : w.seen = some r)
    (hne : r'.blockNumber ≠ r.blockNumber) : w.tx.movedTo r'.blockNumber = true := by
  have hblock : w.tx.blockNumber = some (toString r.blockNumber) := by rw [hw.block, hr]; rfl
  simp only [TrackedTransaction.movedTo, hblock, Option.isSome_some, Bool.true_and,
    decide_eq_true_eq, ne_eq, Option.some.injEq]
  exact fun h => hne (toString_nat_inj h).symm

theorem corrects_gone_iff (hw : Watched policy w) (ho : o.receipt = none)
    (hpresent : w.present = true) : w.Corrects policy o ↔ w.tx.state ≠ .REVERTED := by
  obtain hm | hreverted := hw.present hpresent
  · have hne : w.tx.state ≠ .REVERTED := by
      intro h
      rw [h] at hm
      exact absurd hm (by decide)
    refine iff_of_true ⟨?_, ?_⟩ hne
    · simp [Watch.correction, ho, advanceTransaction, hm]
    · simp [Watch.observe, ho, advanceTransaction, hm, hw.block]
  · have hm : w.tx.state ∉ MINED_STATES := by
      rw [hreverted]
      decide
    refine iff_of_false (fun h => h.1 ?_) (not_not.mpr hreverted)
    simp [Watch.correction, ho, advanceTransaction, hm]

theorem corrects_success (hw : Watched policy w) {r r' : TxReceipt} (hr : w.seen = some r)
    (ho : o.receipt = some r') (hs : r'.status = .success)
    (hne : r'.blockNumber ≠ r.blockNumber) : w.Corrects policy o := by
  have hmoved := movedTo_of_ne hw hr hne
  refine ⟨?_, ?_⟩
  · simp [Watch.correction, ho, advanceTransaction, hs, hmoved]
  · rw [observe_success ho hs]
    simp [hmoved, hw.block]

theorem corrects_reverted_iff (hw : Watched policy w) {r' : TxReceipt}
    (ho : o.receipt = some r') (hs : r'.status = .reverted) :
    w.Corrects policy o ↔
      w.tx.state ≠ .REVERTED ∧ w.tx.reorgedFromBlock = w.tx.blockNumber := by
  unfold Watch.Corrects
  refine and_congr ?_ ?_
  · by_cases h : w.tx.state = .REVERTED <;>
      simp [Watch.correction, ho, advanceTransaction, hs, h]
  · rw [← hw.block]
    simp [Watch.observe, ho, advanceTransaction, hs, TrackedTransaction.withReceipt]

theorem corrects_iff (hw : Watched policy w) (hleaves : w.Leaves o) :
    w.Corrects policy o ↔ w.Noticed o := by
  obtain ⟨r, hr, ⟨ho, hpresent⟩ | ⟨r', ho, hne⟩⟩ := hleaves
  · rw [corrects_gone_iff hw ho hpresent]
    refine ⟨fun h => ⟨fun _ => h, fun r' hr' => ?_⟩, fun h => h.gone ho⟩
    rw [ho] at hr'
    cases hr'
  · have hsome : o.receipt ≠ none := by simp [ho]
    cases hs : r'.status with
    | success =>
      refine iff_of_true (corrects_success hw hr ho hs hne) ⟨fun h => absurd h hsome, ?_⟩
      intro r'' hr'' hreverted
      obtain rfl : r' = r'' := Option.some.inj (ho.symm.trans hr'')
      rw [hs] at hreverted
      cases hreverted
    | reverted =>
      rw [corrects_reverted_iff hw ho hs]
      refine ⟨fun h => ⟨fun h' => absurd h' hsome, fun _ _ _ => h⟩, fun h => h.moved r' ho hs⟩

/-- **The lifecycle.** In every run from a submitted transaction: it is final only while the
    last observation showed enough confirmations; and an observation in which a receipt is gone
    or in another block is corrected, and the block recorded, exactly when it is noticed. -/
theorem finality_lawful {w₀ : Watch} (h₀ : w₀.Submitted)
    (h : Reaches (Watch.step policy) w₀ w) :
    (w.tx.state = .FINALIZED → ∃ o r, w.last = some o ∧ o.receipt = some r ∧
      r.status = .success ∧ policy.confirmations ≤ confirmationsAt r.blockNumber o.headBlock) ∧
    ∀ o, ((w.Leaves o → w.Corrects policy o) ↔ (w.Leaves o → w.Noticed o)) := by
  have hw := watched_reaches h₀ h
  refine ⟨hw.final, fun o => ⟨fun hc hl => (corrects_iff hw hl).mp (hc hl), fun hn hl => ?_⟩⟩
  exact (corrects_iff hw hl).mpr (hn hl)

end Laws

/-! ## 5. A transaction that reverted -/

def submittedTx : TrackedTransaction where
  txHash := "0xaa"
  chainId := 11155111
  state := .SUBMITTED
  blockNumber := none
  confirmations := 0
  gasUsed := none
  effectiveGasPriceWei := none
  actualNativeCostWei := none
  correlationId := "run-1"
  reorgedFromBlock := none

def submitted : Watch := ⟨submittedTx, none, none⟩

theorem submitted_submitted : submitted.Submitted := ⟨rfl, rfl, rfl, rfl⟩

def observed (status : ReceiptStatus) (blockNumber headBlock : Nat) : Observation :=
  ⟨some ⟨status, blockNumber, 21000, 1⟩, headBlock⟩

def seenOnce (status : ReceiptStatus) : Watch :=
  submitted.observe DEFAULT_FINALITY (observed status 100 111)

theorem reaches_seenOnce (status : ReceiptStatus) :
    Reaches (Watch.step DEFAULT_FINALITY) submitted (seenOnce status) :=
  Reaches.head (a := observed status 100 111) rfl (Reaches.refl _)

/-- A final transaction that moves is corrected. -/
theorem finality_lawful_moved : (seenOnce .success).tx.state = .FINALIZED ∧
    (seenOnce .success).Corrects DEFAULT_FINALITY (observed .success 101 113) := by
  have hlaw := finality_lawful submitted_submitted (reaches_seenOnce .success)
  have hnoticed : (seenOnce .success).Noticed (observed .success 101 113) := by
    refine ⟨fun h => ?_, fun r hr hs => ?_⟩
    · cases h
    · cases hr
      cases hs
  refine ⟨by decide, (hlaw.2 _).mpr (fun _ => hnoticed) ?_⟩
  exact ⟨_, rfl, Or.inr ⟨_, rfl, by decide⟩⟩

/-- **A reverted transaction** that is gone, and one that is in another block: nothing is
    corrected, and the block is not recorded. -/
theorem reverted_unnoticed :
    Reaches (Watch.step DEFAULT_FINALITY) submitted (seenOnce .reverted) ∧
      (seenOnce .reverted).Leaves ⟨none, 112⟩ ∧
      (seenOnce .reverted).correction DEFAULT_FINALITY ⟨none, 112⟩ = none ∧
      (seenOnce .reverted).Leaves (observed .reverted 101 112) ∧
      (seenOnce .reverted).correction DEFAULT_FINALITY (observed .reverted 101 112) = none ∧
      ((seenOnce .reverted).observe DEFAULT_FINALITY
        (observed .reverted 101 112)).tx.reorgedFromBlock = none := by
  refine ⟨reaches_seenOnce .reverted, ⟨_, rfl, Or.inl ⟨rfl, rfl⟩⟩, rfl,
    ⟨_, rfl, Or.inr ⟨_, rfl, by decide⟩⟩, rfl, rfl⟩

end ContextLock.Control
