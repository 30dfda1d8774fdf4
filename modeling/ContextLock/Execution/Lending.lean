/-
  Subject:   What the lending and staking adapters share: transactions, checks, and the law of a
             lawful call.
-/
import ContextLock.Execution.Action

namespace ContextLock.Execution

open Js Evm

/-! ## 1. Transactions -/

/-- What the builder claims; never read by a decoder. -/
structure LendingSummary where
  action : String
  account : String
  amount : String

structure LendingPrepared where
  to' : String
  data : String
  value : String
  chainId : Js.Num
  summary : LendingSummary

def LendingSummary.json (s : LendingSummary) : Json :=
  .obj [("action", .str s.action), ("account", .str s.account), ("amount", .str s.amount)]

/-! ## 2. Checks of every adapter -/

/-- The decoded action is in the Blueprint's permitted set. -/
def permittedProblems (adapter : String) (highRisk permitted : List String)
    (n : NormalizedAction) (note : String) : List ValidationProblem :=
  flag (n.actionType ∉ permitted)
    ⟨if n.actionType ∈ highRisk then adapter ++ "-V-HIGH-RISK-ACTION"
      else adapter ++ "-V-ACTION-NOT-PERMITTED", .CRITICAL, "actionType",
      s!"decoded action {n.actionType}{note} is not in the Blueprint's permitted set " ++
        "(" ++ ", ".intercalate permitted ++ "); adapter capability is not agent authority"⟩

/-- The decoded action is the intent's. -/
def mismatchProblems (adapter : String) (n : NormalizedAction) (action : String) :
    List ValidationProblem :=
  flag (n.actionType ≠ action)
    ⟨adapter ++ "-V-ACTION-MISMATCH", .CRITICAL, "actionType",
      s!"decoded {n.actionType} but the intent was {action}"⟩

def chainProblems (adapter : String) (n : NormalizedAction) (c : ExecutionConstraints) :
    List ValidationProblem :=
  flag (Js.Num.strictEq n.chainId c.chainId = false)
    ⟨adapter ++ "-V-CHAIN", .CRITICAL, "chainId",
      s!"decoded chain {n.chainId.text} != policy chain {c.chainId.text}"⟩

def targetProblems (code noun : String) (n : NormalizedAction) (c : ExecutionConstraints) :
    List ValidationProblem :=
  flag (¬ listedIn c.allowedTargets n.target)
    ⟨code, .CRITICAL, "target", s!"target {n.target} is not the allow-listed {noun}"⟩

/-- `cap && BigInt(amount) > BigInt(cap)`, of texts that are numbers. -/
def exceeds (amount cap : String) : Bool :=
  match weiOf amount, weiOf cap with
  | some a, some b => cap ≠ "" ∧ b < a
  | _, _ => false

/-- An unlimited approval where none is permitted. -/
def unlimitedProblems (adapter : String) (c : ExecutionConstraints) (a : AllowanceChange) :
    List ValidationProblem :=
  flag (a.unlimited = true ∧ c.allowUnlimitedApprovals = false)
    ⟨adapter ++ "-V-UNLIMITED-APPROVAL", .CRITICAL, "allowanceChanges",
      s!"unlimited approval to {a.spender} is not permitted"⟩

def flowOf (n : NormalizedAction) : Option AssetFlow := n.inputs.head?.or n.outputs.head?

/-! ## 3. Intents -/

/-- An amount is a positive number in digits. -/
def amountProblems (adapter unit amount : String) : List ValidationProblem :=
  if isDecimal amount = false then
    [⟨adapter ++ "-I3", .CRITICAL, "amount", "amount must be integer " ++ unit⟩]
  else flag (decimalValue amount = 0)
    ⟨adapter ++ "-I4", .HIGH, "amount", "amount must be positive"⟩

def addressProblems (code field value : String) : List ValidationProblem :=
  flag (isAddress value = false) ⟨code, .CRITICAL, field, s!"{field} must be an address"⟩

theorem amountProblems_eq_nil {adapter unit amount : String} :
    amountProblems adapter unit amount = [] ↔ isDecimal amount = true ∧ decimalValue amount ≠ 0 := by
  unfold amountProblems
  split
  · rename_i h
    simp [h]
  · rename_i h
    rw [flag_eq_nil, Bool.not_eq_false] at *
    exact ⟨fun hne => ⟨h, hne⟩, And.right⟩

theorem addressProblems_eq_nil {code field value : String} :
    addressProblems code field value = [] ↔ ∃ a, addressOf value = some a := by
  unfold addressProblems
  rw [flag_eq_nil, Bool.not_eq_false, isAddress_iff]

theorem pure_eq_ok {ε α : Type} {x y : α} : (pure x : Except ε α) = .ok y ↔ y = x := by
  rw [eq_comm]
  exact Except.ok.injEq y x ▸ Iff.rfl

/-- An argument of 256 bits, or viem's refusal of a number that does not fit. -/
def uint256 (n : Nat) : Except Thrown Uint256 :=
  if n < 2 ^ 256 then .ok (BitVec.ofNat 256 n)
  else .error (.outOfRange (toString n))

theorem uint256_eq_ok {n : Nat} {w : Uint256} :
    uint256 n = .ok w ↔ n < 2 ^ 256 ∧ w = BitVec.ofNat 256 n := by
  unfold uint256
  split
  · rename_i h
    rw [Except.ok.injEq]
    exact ⟨fun hw => ⟨h, hw.symm⟩, fun hw => hw.2.symm⟩
  · rename_i h
    exact ⟨fun herror => (by cases herror), fun hw => absurd hw.1 h⟩

theorem toNat_ofNat {n : Nat} (h : n < 2 ^ 256) : (BitVec.ofNat 256 n).toNat = n := by
  rw [BitVec.toNat_ofNat]
  exact Nat.mod_eq_of_lt h

/-- `getAddress` of an argument. -/
def address (s : String) : Except Thrown Address :=
  match addressOf s with
  | some a => .ok a
  | none => .error (.invalidAddress s)

theorem address_eq_ok {s : String} {a : Address} : address s = .ok a ↔ addressOf s = some a := by
  unfold address
  cases addressOf s with
  | none => simp
  | some b => simp

/-! ## 4. The law of a call -/

/-- Who may receive funds or an allowance. -/
def Permits (c : ExecutionConstraints) (s : String) : Prop :=
  match c.allowedRecipients with
  | .selfOnly => sameText s c.owner
  | .listed recipients => listedIn recipients s

/-- What a call does. An asset is a token or a market; the account of a stake is the sender. -/
structure Effect where
  asset : String
  amount : Option Nat
  credited : Option String
  receivers : List String
  stake : Bool

/-- What an intent asks for. -/
structure Asked where
  assets : List String
  amount : String
  account : String

/-- **The call moves the amount of the asset that was asked for, credits the account, pays and
    approves only whom the constraints permit, and carries no value but a stake's.** -/
structure Lawful (e : Effect) (asked : Asked) (c : ExecutionConstraints) (value : String) :
    Prop where
  asset : listedIn asked.assets e.asset
  amount : e.amount = weiOf asked.amount
  credited : ∀ s ∈ e.credited, sameText s asked.account
  receivers : ∀ s ∈ e.receivers, Permits c s
  value : weiOf value = if e.stake then weiOf asked.amount else some 0

theorem listedIn_singleton {s t : String} : listedIn [t] s ↔ sameText s t := by
  unfold listedIn sameText
  rw [List.map_singleton, List.mem_singleton]

theorem permits_iff {c : ExecutionConstraints} {s : String} : Permits c s ↔
    (c.allowedRecipients = .selfOnly → sameText s c.owner) ∧
      ∀ recipients, c.allowedRecipients = .listed recipients → listedIn recipients s := by
  unfold Permits
  cases c.allowedRecipients with
  | selfOnly => simp
  | listed recipients => simp

theorem sameText.trans {s t u : String} (h : sameText s t) (h' : sameText t u) : sameText s u :=
  Eq.trans (b := toLowerCase t) h h'

theorem listedIn_congr {texts : List String} {s t : String} (h : sameText s t) :
    listedIn texts s ↔ listedIn texts t := by
  unfold listedIn
  rw [show toLowerCase s = toLowerCase t from h]

def Effect.credit (asset : Address) (amount : Uint256) (account : Address) : Effect where
  asset := getAddress asset
  amount := some amount.toNat
  credited := some (getAddress account)
  receivers := [getAddress account]
  stake := false

/-- **When a call that credits an account is lawful.** -/
theorem lawful_credit_iff {asset account : Address} {amount : Uint256} {assets : List String}
    {amountText accountText value : String} {c : ExecutionConstraints} :
    Lawful (.credit asset amount account) ⟨assets, amountText, accountText⟩ c value ↔
      listedIn assets (getAddress asset) ∧ weiOf amountText = some amount.toNat ∧
        Names accountText account ∧ Permits c (getAddress account) ∧ weiOf value = some 0 := by
  constructor
  · intro h
    exact ⟨h.asset, h.amount.symm, sameText_getAddress.mp (h.credited _ rfl),
      h.receivers _ (List.mem_singleton.mpr rfl), h.value⟩
  · intro h
    obtain ⟨hasset, hamount, haccount, hpermits, hvalue⟩ := h
    refine ⟨hasset, hamount.symm, fun s hs => ?_, fun s hs => ?_, hvalue⟩
    · obtain rfl := Option.some.inj hs
      exact sameText_getAddress.mpr haccount
    · obtain rfl := List.mem_singleton.mp hs
      exact hpermits

/-! ## 5. Constraints made for an intent -/

/-- The constraints are for the chain, allow the protocol's contract, and name the account as
    the owner who alone may receive. -/
structure Suits (c : ExecutionConstraints) (chainId : Js.Num) (account target : String) : Prop where
  chain : Js.Num.strictEq chainId c.chainId = true
  target : listedIn c.allowedTargets target
  selfOnly : c.allowedRecipients = .selfOnly
  owner : sameText account c.owner

theorem Suits.permits {c : ExecutionConstraints} {chainId : Js.Num} {account target : String}
    {a : Address} (h : Suits c chainId account target) (ha : Names account a) :
    Permits c (getAddress a) := by
  unfold Permits
  rw [h.selfOnly]
  exact (sameText_getAddress.mpr ha).trans h.owner

theorem Suits.listed {c : ExecutionConstraints} {chainId : Js.Num} {account target : String}
    {a : Address} (h : Suits c chainId account target) (ha : addressOf target = some a) :
    listedIn c.allowedTargets (getAddress a) :=
  (listedIn_congr (sameText_getAddress.mpr (names_of_addressOf ha))).mpr h.target

/-- **A positive amount is read back as the text it was iff it has no leading zero.** -/
theorem amount_read_back {amount : String} (hdecimal : isDecimal amount = true)
    (hpositive : decimalValue amount ≠ 0) :
    amount = toString (decimalValue amount) ↔ amount.toList.head? ≠ some '0' := by
  have hne : amount ≠ "0" := fun hzero => hpositive (by rw [hzero]; decide)
  rw [eq_comm, toString_decimalValue_iff hdecimal]
  simp [hne]

/-! ## 6. Decoded and compared -/

section

variable {ε Call Reading : Type} {decoded valid : NormalizedAction → Prop} {P : Call → Prop}
  {reads : Call → Reading → Prop} {S : Address → Prop}

/-- What is decoded and found valid is what is read and compared. -/
theorem exists_decoded_iff {of : Reading → Address → NormalizedAction}
    {compared : Reading → Address → Prop}
    (hdecode : ∀ n, decoded n ↔ ∃ call r a, P call ∧ reads call r ∧ S a ∧ n = of r a)
    (hvalid : ∀ r a, valid (of r a) ↔ compared r a) :
    (∃ n, decoded n ∧ valid n) ↔ ∃ call r a, P call ∧ reads call r ∧ S a ∧ compared r a := by
  constructor
  · intro h
    obtain ⟨n, hn, hn'⟩ := h
    obtain ⟨call, r, a, hcall, hr, ha, rfl⟩ := (hdecode n).mp hn
    exact ⟨call, r, a, hcall, hr, ha, (hvalid r a).mp hn'⟩
  · intro h
    obtain ⟨call, r, a, hcall, hr, ha, hcompared⟩ := h
    exact ⟨_, (hdecode _).mpr ⟨call, r, a, hcall, hr, ha, rfl⟩, (hvalid r a).mpr hcompared⟩

theorem exists_effect_iff {x : Except ε Call} {effectOf : Call → Option Effect} {call : Call}
    {e : Effect} {law : Effect → Prop} (hcall : x = .ok call) (he : effectOf call = some e) :
    (∃ call e, x = .ok call ∧ effectOf call = some e ∧ law e) ↔ law e := by
  simp only [hcall, Except.ok.injEq, exists_eq_left', he, Option.some.injEq, exists_and_left]

end

end ContextLock.Execution
