/-
  Subject:   The typed transaction adapters: from an agent's parameters to the bytes of a call.

  There is one adapter, the transfer. It reads a recipient and an amount, and both the calldata
  and the summary a human sees are built from these two.
-/
import ContextLock.Js.Schema
import ContextLock.Policy.Workflow

namespace ContextLock.Broker

open Evm Js

/-! ## 1. Candidate transactions -/

/-- The transaction an adapter proposes. -/
structure CandidateTransaction where
  chainId : Int
  target : String
  value : Int
  calldata : Bytes
  calldataHash : Bytes32
  actionKind : String
  actionKindHash : Bytes32
  semanticSummary : List (String × String)

structure AdapterContext where
  chainId : Int
  target : String

/-! ## 2. The parameters of a transfer -/

structure MockTransferParams where
  recipient : Address
  amount : Nat

/-- `recipientSchema`: an address in any casing, and not the zero address. -/
def recipientSchema (s : String) : Except String Address :=
  match hexValue 20 s with
  | none => .error "not a valid EVM address"
  | some n =>
    if n = 0 then .error "recipient must not be the zero address (funds would be unrecoverable)"
    else .ok (BitVec.ofNat 160 n)

/-- `baseUnitsSchema`: a positive integer of at most `2 ^ 128`, in decimal digits. -/
def baseUnitsSchema (s : String) : Except String Nat :=
  if s.toList = [] ∨ ¬ s.toList.all Char.isDigit then
    .error "amount must be integer base units as a decimal string"
  else
    let n := s.toList.foldl (fun n c => 10 * n + (c.toNat - 48)) 0
    if n = 0 then .error "amount must be positive"
    else if 2 ^ 128 < n then .error "amount unreasonably large"
    else .ok n

/-- `mockTransferParams.safeParse`: the parameters, or every issue in the schema's order. -/
def mockTransferParams (params : Json) : Except (List String) MockTransferParams :=
  match params with
  | .obj fields =>
    let recipient := textField fields "recipient" >>= recipientSchema
    let amount := textField fields "amount" >>= baseUnitsSchema
    let extra := unrecognized ((fields.map (·.1)).filter (· ∉ ["recipient", "amount"]))
    match recipient, amount, extra with
    | .ok r, .ok n, [] => .ok ⟨r, n⟩
    | _, _, _ => .error (issueOf recipient ++ issueOf amount ++ extra)
  | other => .error ["Invalid input: expected object, received " ++ Json.typeName (some other)]

/-! ## 3. The adapter -/

def MOCK_TRANSFER : String := "MOCK_TRANSFER"

def MockTransferParams.build (params : MockTransferParams) (ctx : AdapterContext) :
    CandidateTransaction :=
  let calldata := Policy.transferToCalldata params.recipient (BitVec.ofNat 256 params.amount)
  { chainId := ctx.chainId
    target := ctx.target
    value := 0
    calldata := calldata
    calldataHash := keccak256 calldata
    actionKind := MOCK_TRANSFER
    actionKindHash := keccakText MOCK_TRANSFER
    semanticSummary :=
      [("action", "Transfer treasury units"), ("recipient", getAddress params.recipient),
       ("amount", toString params.amount), ("target", ctx.target), ("value", "0")] }

def registry : List (String × (Json → Except (List String) MockTransferParams)) :=
  [(MOCK_TRANSFER, mockTransferParams)]

end ContextLock.Broker
