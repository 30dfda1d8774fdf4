/-
  Subject:   A Universal Router call: the commands in it, and the summary they are decoded to.

  Reading the commands needs the calldata alone; the summary is made of them with an address for the
  message sender.
-/
import ContextLock.Execution.Action

namespace ContextLock.Execution.Uniswap

open Js Evm

/-! ## 1. What viem decodes -/

/-- A call of `execute`, with a deadline where the overload has one. -/
structure ExecuteCall where
  commands : Bytes
  inputs : List Bytes
  deadline : Option Uint256

/-- `address, uint256, uint256, bytes, bool`. -/
structure SwapV3Params where
  recipient : Address
  amountIn : Uint256
  amountOutMin : Uint256
  path : Bytes
  payerIsUser : Bool

/-- `address, uint256, uint256, address[], bool`. -/
structure SwapV2Params where
  recipient : Address
  amountIn : Uint256
  amountOutMin : Uint256
  path : List Address
  payerIsUser : Bool

/-- What is read of `((address,uint160,uint48,uint48),address,uint256), bytes`. -/
structure PermitParams where
  token : Address
  amount : BitVec 160
  spender : Address

/-- `address, address, uint256`. -/
structure PaymentParams where
  token : Address
  recipient : Address
  amount : Uint256

/-- `address, uint256`. -/
structure WrapParams where
  recipient : Address
  amount : Uint256

/-- The decoders of viem, each for one list of parameter types; an error is its message. -/
structure Viem where
  decodeFunctionData : String → Except String ExecuteCall
  swapV3 : Bytes → Except String SwapV3Params
  swapV2 : Bytes → Except String SwapV2Params
  permit : Bytes → Except String PermitParams
  payment : Bytes → Except String PaymentParams
  wrap : Bytes → Except String WrapParams

/-! ## 2. Commands -/

/-- `COMMAND_NAMES[command] ?? ...`. -/
def commandName (command : Nat) : String :=
  match command with
  | 0x00 => "V3_SWAP_EXACT_IN"
  | 0x01 => "V3_SWAP_EXACT_OUT"
  | 0x02 => "PERMIT2_TRANSFER_FROM"
  | 0x04 => "SWEEP"
  | 0x05 => "TRANSFER"
  | 0x06 => "PAY_PORTION"
  | 0x08 => "V2_SWAP_EXACT_IN"
  | 0x09 => "V2_SWAP_EXACT_OUT"
  | 0x0a => "PERMIT2_PERMIT"
  | 0x0b => "WRAP_ETH"
  | 0x0c => "UNWRAP_WETH"
  | 0x10 => "V4_SWAP"
  | _ => "UNKNOWN_0x" ++ String.ofList (Nat.toDigits 16 command)

/-- `RECIPIENT_ROUTER`: the router itself. -/
def recipientRouter : Address := 1

/-- `RECIPIENT_SENDER`: the message sender. -/
def recipientSender : Address := 2

/-- The tokens after the first, each behind the three bytes of a fee. -/
def hops : Nat → Bytes → List Address
  | 0, _ => []
  | n + 1, bs => BitVec.ofNat 160 (beNat ((bs.drop 3).take 20)) :: hops n (bs.drop 23)

/-- `decodeV3Path`: `token (20) | fee (3) | token (20) | ...`. -/
def decodeV3Path (path : Bytes) : Except Thrown (List Address) :=
  if path.length < 43 then .error (.adapter "UNI-PATH-SHORT"
    s!"v3 path is too short to contain one hop: {bytesText path}")
  else if (path.length - 20) % 23 ≠ 0 then .error (.adapter "UNI-PATH-MALFORMED"
    s!"v3 path length {2 * path.length} is not a whole number of hops")
  else .ok (BitVec.ofNat 160 (beNat (path.take 20)) ::
    hops ((path.length - 20) / 23) (path.drop 20))

/-- A command with its arguments. -/
inductive Command where
  | V3_SWAP_EXACT_IN (p : SwapV3Params) (tokens : List Address)
  | V2_SWAP_EXACT_IN (p : SwapV2Params)
  | PERMIT2_PERMIT (p : PermitParams)
  | SWEEP (p : PaymentParams)
  | TRANSFER (p : PaymentParams)
  | PAY_PORTION (p : PaymentParams)
  | WRAP_ETH (p : WrapParams)
  | UNWRAP_WETH (p : WrapParams)

/-- A command as it stands in the call: its byte, with the flag that lets it revert. -/
structure Step where
  raw : UInt8
  command : Command

/-- `raw & 0x3f`. -/
def codeOf (raw : UInt8) : Nat := raw.toNat % 64

def viemDecode {α : Type} (decoded : Except String α) : Except Thrown α := decoded.mapError .other

def unsupportedCommand (command : Nat) : Thrown :=
  let digits := Nat.toDigits 16 command
  let padded := String.ofList (List.replicate (2 - digits.length) '0' ++ digits)
  .adapter "UNI-UNSUPPORTED-COMMAND"
    (s!"router command {commandName command} (0x{padded}) is not decoded by this adapter; " ++
      "refusing to authorize a call it cannot fully read")

/-- The command a byte and its input stand for. -/
def readCommand (viem : Viem) (raw : UInt8) (input : Bytes) : Except Thrown Command :=
  match codeOf raw with
  | 0x00 => (viemDecode (viem.swapV3 input)).bind fun p =>
      (decodeV3Path p.path).map fun tokens => .V3_SWAP_EXACT_IN p tokens
  | 0x08 => (viemDecode (viem.swapV2 input)).map .V2_SWAP_EXACT_IN
  | 0x0a => (viemDecode (viem.permit input)).map .PERMIT2_PERMIT
  | 0x04 => (viemDecode (viem.payment input)).map .SWEEP
  | 0x05 => (viemDecode (viem.payment input)).map .TRANSFER
  | 0x06 => (viemDecode (viem.payment input)).map .PAY_PORTION
  | 0x0b => (viemDecode (viem.wrap input)).map .WRAP_ETH
  | 0x0c => (viemDecode (viem.wrap input)).map .UNWRAP_WETH
  | command => .error (unsupportedCommand command)

/-- The commands of a call, one after the other. -/
def readSteps (viem : Viem) : List (UInt8 × Bytes) → Except Thrown (List Step)
  | [] => .ok []
  | (raw, input) :: rest => do
    let command ← readCommand viem raw input
    let steps ← readSteps viem rest
    pure (⟨raw, command⟩ :: steps)

structure RouterCall where
  steps : List Step
  deadline : Option Uint256

def readCalldata (viem : Viem) (calldata : String) : Except Thrown RouterCall :=
  match viem.decodeFunctionData calldata with
  | .error reason => .error (.adapter "UNI-NOT-ROUTER-CALL"
      s!"calldata is not a UniversalRouter.execute call: {reason}")
  | .ok call =>
    if call.commands.length ≠ call.inputs.length then
      .error (.adapter "UNI-COMMAND-INPUT-MISMATCH"
        s!"{call.commands.length} commands but {call.inputs.length} inputs")
    else do
      let steps ← readSteps viem (call.commands.zip call.inputs)
      if steps = [] then .error (.adapter "UNI-NO-COMMANDS" "router call contains no commands")
      pure ⟨steps, call.deadline⟩

/-! ## 3. The summary -/

/-- The summary of a call; of each command only its name is read further on. -/
structure DecodedRouterCall where
  deadline : Option String
  commands : List String
  finalRecipient : Option String
  amountIn : Option String
  amountOutMin : Option String
  tokenIn : Option String
  tokenOut : Option String
  approvals : List AllowanceChange

/-- `resolveRecipient`, of an address that viem decoded. -/
def resolveRecipient (raw : Address) (swapper : String) : String :=
  if raw = recipientRouter then getAddress recipientRouter
  else if raw = recipientSender then swapper
  else getAddress raw

/-- `UINT160_MAX`: no limit, for Permit2. -/
def uint160Max : Nat := 2 ^ 160 - 1

def wordText (w : Uint256) : String := toString w.toNat

/-- A swap in the summary: the first amount and token in, the last minimum, token out and
    recipient. -/
def recordSwap (d : DecodedRouterCall) (recipient : String) (amountIn amountOutMin : Uint256)
    (tokens : List Address) : DecodedRouterCall :=
  { d with
    amountIn := d.amountIn.or (some (wordText amountIn))
    amountOutMin := some (wordText amountOutMin)
    tokenIn := d.tokenIn.or (tokens.head?.map getAddress)
    tokenOut := tokens.getLast?.map getAddress
    finalRecipient := some recipient }

/-- What a command changes in the summary. -/
def record (swapper : String) (d : DecodedRouterCall) (s : Step) : DecodedRouterCall :=
  let d := { d with commands := d.commands ++ [commandName (codeOf s.raw)] }
  match s.command with
  | .V3_SWAP_EXACT_IN p tokens =>
    recordSwap d (resolveRecipient p.recipient swapper) p.amountIn p.amountOutMin tokens
  | .V2_SWAP_EXACT_IN p =>
    recordSwap d (resolveRecipient p.recipient swapper) p.amountIn p.amountOutMin p.path
  | .PERMIT2_PERMIT p =>
    { d with approvals := d.approvals ++ [⟨getAddress p.token, getAddress p.spender,
        toString p.amount.toNat, uint160Max ≤ p.amount.toNat⟩] }
  | .SWEEP p | .TRANSFER p | .PAY_PORTION p =>
    { d with finalRecipient := d.finalRecipient.or (some (resolveRecipient p.recipient swapper)) }
  | .WRAP_ETH _ | .UNWRAP_WETH _ => d

def noCommands (deadline : Option Uint256) : DecodedRouterCall :=
  ⟨deadline.map wordText, [], none, none, none, none, none, []⟩

def summarize (swapper : String) (call : RouterCall) : DecodedRouterCall :=
  call.steps.foldl (record swapper) (noCommands call.deadline)

def decodeUniversalRouterCalldata (viem : Viem) (calldata swapper : String) :
    Except Thrown DecodedRouterCall :=
  (readCalldata viem calldata).map (summarize swapper)

/-! ## 4. What is read -/

/-! ## 5. What is kept of the commands -/

structure Swap where
  recipient : Address
  amountIn : Uint256
  amountOutMin : Uint256
  tokens : List Address
  payerIsUser : Bool

def Command.swap : Command → Option Swap
  | V3_SWAP_EXACT_IN p tokens =>
    some ⟨p.recipient, p.amountIn, p.amountOutMin, tokens, p.payerIsUser⟩
  | V2_SWAP_EXACT_IN p => some ⟨p.recipient, p.amountIn, p.amountOutMin, p.path, p.payerIsUser⟩
  | _ => none

def Command.payment : Command → Option PaymentParams
  | SWEEP p | TRANSFER p | PAY_PORTION p => some p
  | _ => none

def Command.permit : Command → Option PermitParams
  | PERMIT2_PERMIT p => some p
  | _ => none

def swapsOf (steps : List Step) : List Swap := steps.filterMap fun s => s.command.swap

def paymentsOf (steps : List Step) : List PaymentParams :=
  steps.filterMap fun s => s.command.payment

def permitsOf (steps : List Step) : List PermitParams := steps.filterMap fun s => s.command.permit

/-- The recipient of the last swap, or of the first payment where nothing is swapped. -/
def payee (steps : List Step) : Option Address :=
  ((swapsOf steps).getLast?.map (·.recipient)).or ((paymentsOf steps).head?.map (·.recipient))

def approvalOf (p : PermitParams) : AllowanceChange :=
  ⟨getAddress p.token, getAddress p.spender, toString p.amount.toNat, uint160Max ≤ p.amount.toNat⟩

/-- The summary that further commands make of one. -/
def extended (swapper : String) (d : DecodedRouterCall) (steps : List Step) :
    DecodedRouterCall where
  deadline := d.deadline
  commands := d.commands ++ steps.map fun s => commandName (codeOf s.raw)
  finalRecipient := ((swapsOf steps).getLast?.map fun s => resolveRecipient s.recipient swapper).or
    (d.finalRecipient.or
      ((paymentsOf steps).head?.map fun p => resolveRecipient p.recipient swapper))
  amountIn := d.amountIn.or ((swapsOf steps).head?.map fun s => wordText s.amountIn)
  amountOutMin := ((swapsOf steps).getLast?.map fun s => wordText s.amountOutMin).or d.amountOutMin
  tokenIn := d.tokenIn.or
    (((swapsOf steps).findSome? fun s => s.tokens.head?).map getAddress)
  tokenOut := match (swapsOf steps).getLast? with
    | some s => s.tokens.getLast?.map getAddress
    | none => d.tokenOut
  approvals := d.approvals ++ (permitsOf steps).map approvalOf

theorem extended_record (swapper : String) (d : DecodedRouterCall) (s : Step) (rest : List Step) :
    extended swapper (record swapper d s) rest = extended swapper d (s :: rest) := by
  have hswaps : swapsOf (s :: rest) = s.command.swap.toList ++ swapsOf rest := by
    unfold swapsOf
    rw [List.filterMap_cons]
    cases s.command.swap <;> rfl
  have hpayments : paymentsOf (s :: rest) = s.command.payment.toList ++ paymentsOf rest := by
    unfold paymentsOf
    rw [List.filterMap_cons]
    cases s.command.payment <;> rfl
  have hpermits : permitsOf (s :: rest) = s.command.permit.toList ++ permitsOf rest := by
    unfold permitsOf
    rw [List.filterMap_cons]
    cases s.command.permit <;> rfl
  unfold extended record
  rw [hswaps, hpayments, hpermits]
  cases s.command with
  | V3_SWAP_EXACT_IN p tokens =>
    cases hlast : (swapsOf rest).getLast? <;> cases tokens <;>
      simp [Command.swap, Command.payment, Command.permit, recordSwap, List.getLast?_cons, hlast,
        List.findSome?_cons]
  | V2_SWAP_EXACT_IN p =>
    cases hlast : (swapsOf rest).getLast? <;> cases hpath : p.path <;>
      simp [Command.swap, Command.payment, Command.permit, recordSwap, List.getLast?_cons, hlast,
        List.findSome?_cons, hpath]
  | PERMIT2_PERMIT p =>
    simp [Command.swap, Command.payment, Command.permit, approvalOf]
  | SWEEP p | TRANSFER p | PAY_PORTION p | WRAP_ETH p | UNWRAP_WETH p =>
    simp [Command.swap, Command.payment, Command.permit]

theorem foldl_record (swapper : String) (steps : List Step) (d : DecodedRouterCall) :
    steps.foldl (record swapper) d = extended swapper d steps := by
  induction steps generalizing d with
  | nil => simp [extended, swapsOf, paymentsOf, permitsOf]
  | cons s rest ih => rw [List.foldl_cons, ih, extended_record]

/-- **What the summary keeps**: of all the swaps, the first amount and token in, the last minimum
    and token out, and the payee. -/
theorem summarize_eq (swapper : String) (call : RouterCall) :
    summarize swapper call =
      { deadline := call.deadline.map wordText
        commands := call.steps.map fun s => commandName (codeOf s.raw)
        finalRecipient := (payee call.steps).map (resolveRecipient · swapper)
        amountIn := (swapsOf call.steps).head?.map fun s => wordText s.amountIn
        amountOutMin := (swapsOf call.steps).getLast?.map fun s => wordText s.amountOutMin
        tokenIn := ((swapsOf call.steps).findSome? fun s => s.tokens.head?).map getAddress
        tokenOut := (swapsOf call.steps).getLast?.bind fun s => s.tokens.getLast?.map getAddress
        approvals := (permitsOf call.steps).map approvalOf } := by
  unfold summarize payee
  rw [foldl_record]
  unfold extended noCommands
  cases (swapsOf call.steps).getLast? <;> simp [Function.comp_def]

theorem resolveRecipient_of_ne {raw : Address} (h : raw ≠ recipientSender)
    (swapper swapper' : String) : resolveRecipient raw swapper = resolveRecipient raw swapper' := by
  unfold resolveRecipient
  rw [if_neg h, if_neg h]

theorem resolveRecipient_sender (swapper : String) :
    resolveRecipient recipientSender swapper = swapper := by
  unfold resolveRecipient
  rw [if_neg (by decide), if_pos rfl]

end ContextLock.Execution.Uniswap
