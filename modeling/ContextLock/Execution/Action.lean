/-
  Subject:   What every execution adapter decodes a transaction to, and what it is compared with.

  Texts that name an address are compared in lower case; amounts are compared as decimal texts.
  What viem decodes from calldata is typed: addresses, words and byte strings.
-/
import ContextLock.Evm.Host
import ContextLock.Js.Amount

namespace ContextLock.Execution

open Js

/-! ## 1. The normalized action -/

inductive Severity where
  | CRITICAL
  | HIGH
  | MEDIUM
  | LOW

structure ValidationProblem where
  code : String
  severity : Severity
  field : String
  message : String

/-- A movement of value, expressed independently of any provider's response shape. -/
structure AssetFlow where
  token : String
  amount : String
  from' : Option String
  to' : Option String

structure AllowanceChange where
  token : String
  spender : String
  amount : String
  unlimited : Bool

structure MinOutput where
  token : String
  amount : String

/-- The security-relevant view of a transaction, re-derived from its calldata. -/
structure NormalizedAction where
  chainId : Js.Num
  target : String
  calldata : String
  value : String
  actionType : String
  inputs : List AssetFlow
  outputs : List AssetFlow
  recipient : Option String
  spender : Option String
  allowanceChanges : List AllowanceChange
  minOutputs : List MinOutput
  deadline : Option String
  providerMetadata : List (String × Json)

/-- `allowedRecipients`. -/
inductive Recipients where
  | selfOnly
  | listed (recipients : List String)
  deriving DecidableEq

/-- What the Blueprint permits. -/
structure ExecutionConstraints where
  chainId : Js.Num
  allowedTargets : List String
  allowedRecipients : Recipients
  owner : String
  maxSlippageBps : Option Int
  allowUnlimitedApprovals : Bool
  maxApprovalAmount : Option String
  maxQuoteAgeMs : Js.Num

/-- What a method throws: an adapter's own error, viem's refusal of an address or of a number
    that is out of range, or another error. -/
inductive Thrown where
  | adapter (code message : String)
  | invalidAddress (address : String)
  | outOfRange (value : String)
  | other (message : String)

/-! ## 2. Reporting problems -/

/-- The problem, where the check finds what it looks for. -/
def flag (bad : Prop) [Decidable bad] (problem : ValidationProblem) : List ValidationProblem :=
  if bad then [problem] else []

@[simp] theorem flag_eq_nil {bad : Prop} [Decidable bad] {problem : ValidationProblem} :
    flag bad problem = [] ↔ ¬ bad := by
  unfold flag
  split
  · rename_i h
    simp [h]
  · rename_i h
    simp [h]

theorem strictEq_true {a b : Js.Num} (h : Js.Num.strictEq a b = true) : a = b :=
  (Js.Num.strictEq_iff.mp h).1

/-! ## 3. Texts -/

/-- Equal up to the case of letters. -/
def sameText (s t : String) : Prop := toLowerCase s = toLowerCase t

instance instDecidableSameText (s t : String) : Decidable (sameText s t) :=
  inferInstanceAs (Decidable (toLowerCase s = toLowerCase t))

/-- The text is among the others, up to the case of letters. -/
def listedIn (texts : List String) (s : String) : Prop := toLowerCase s ∈ texts.map toLowerCase

instance instDecidableListedIn (texts : List String) (s : String) : Decidable (listedIn texts s) :=
  inferInstanceAs (Decidable (toLowerCase s ∈ texts.map toLowerCase))

def Names (s : String) (a : Evm.Address) : Prop := toLowerCase s = hexText 20 a.toNat

instance instDecidableNames (s : String) (a : Evm.Address) : Decidable (Names s a) :=
  inferInstanceAs (Decidable (toLowerCase s = hexText 20 a.toNat))

theorem sameText_getAddress {a : Evm.Address} {s : String} :
    sameText (getAddress a) s ↔ Names s a := by
  unfold sameText Names
  rw [toLowerCase_getAddress]
  exact eq_comm

theorem getAddress_ne_empty (a : Evm.Address) : getAddress a ≠ "" := by
  intro h
  have hlower := congrArg String.length (toLowerCase_getAddress a)
  rw [h, ← String.length_toList (s := hexText 20 a.toNat), toList_hexText, List.length_cons] at hlower
  exact absurd hlower (Nat.succ_ne_zero _).symm

theorem names_of_addressOf {s : String} {a : Evm.Address} (h : addressOf s = some a) : Names s a :=
  toLowerCase_of_addressOf h

/-- `getAddress` of a text: the checksummed spelling, or viem's refusal. -/
def checksummed (s : String) : Except Thrown String :=
  match addressOf s with
  | some a => .ok (getAddress a)
  | none => .error (.invalidAddress s)

theorem checksummed_eq_ok {s t : String} :
    checksummed s = .ok t ↔ ∃ a, addressOf s = some a ∧ t = getAddress a := by
  unfold checksummed
  cases addressOf s with
  | none => simp
  | some a => simp [eq_comm]

def bytesText (bs : Evm.Bytes) : String := "0x" ++ hexOf bs

/-- The wei a transaction value spells: digits, or hexadecimal digits after `0x`. -/
def weiOf (value : String) : Option Nat :=
  if value = "" then some 0
  else if isDecimal value then some (decimalValue value)
  else match value.toList with
    | '0' :: 'x' :: c :: cs => digitsValue (c :: cs)
    | _ => none

theorem weiOf_toString (n : Nat) : weiOf (toString n) = some n := by
  have hne : toString n ≠ "" := Nat.repr_ne_empty
  rw [weiOf, if_neg hne, if_pos (isDecimal_toString n), decimalValue_toString]

/-! ## 4. Metadata -/

def metaText (n : NormalizedAction) (key : String) : Option String :=
  match n.providerMetadata.lookup key with
  | some (.str s) => some s
  | _ => none

/-- A flag of the metadata; `false` where there is none. -/
def metaFlag (n : NormalizedAction) (key : String) : Bool :=
  match n.providerMetadata.lookup key with
  | some (.bool b) => b
  | _ => false

end ContextLock.Execution
