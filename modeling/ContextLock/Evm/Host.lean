/-
  Subject:   What every contract sees of the chain: the host, mappings, signatures, EIP-712.

  The host is what no transaction changes: the chain id and the `ecrecover` precompile, which
  stays a parameter (it answers `0` where it recovers nobody).
-/
import ContextLock.Evm.Keccak
import Mathlib.Logic.Function.Basic

namespace ContextLock.Evm

/-- The chain a contract runs on. -/
structure Host where
  chainid : Uint256
  ecrecover : Bytes32 → Uint8 → Bytes32 → Bytes32 → Address

/-! ## 1. Checks that revert -/

section Checks

variable {ε α : Type} {p : Prop} [Decidable p] {e : ε} {x : Except ε α} {y : α}

/-- A check `if (p) revert e;` is passed exactly where `p` fails. -/
@[simp] theorem ite_error_eq_ok :
    (if p then .error e else x) = (.ok y : Except ε α) ↔ ¬ p ∧ x = .ok y := by
  by_cases hp : p <;> simp [hp]

/-- A `require`-shaped check is passed exactly where its condition holds. -/
@[simp] theorem ite_else_error_eq_ok :
    (if p then x else .error e) = (.ok y : Except ε α) ↔ p ∧ x = .ok y := by
  by_cases hp : p <;> simp [hp]

theorem bind_eq_ok {β : Type} {f : α → Except ε β} {z : β} :
    (x >>= f) = .ok z ↔ ∃ a, x = .ok a ∧ f a = .ok z := by
  cases x with
  | error e | ok a => simp [bind, Except.bind]

@[simp] theorem map_eq_ok {β : Type} {f : α → β} {z : β} :
    x.map f = .ok z ↔ ∃ a, x = .ok a ∧ f a = z := by
  cases x <;> simp [Except.map]

@[simp] theorem mapError_eq_ok {δ : Type} {f : ε → δ} : x.mapError f = .ok y ↔ x = .ok y := by
  cases x <;> simp [Except.mapError]

end Checks

/-! ## 2. Mappings of two keys -/

section Mapping

variable {κ₁ κ₂ α : Type} [DecidableEq κ₁] [DecidableEq κ₂]

/-- `m[a][b] = v`. -/
def update₂ (m : κ₁ → κ₂ → α) (a : κ₁) (b : κ₂) (v : α) : κ₁ → κ₂ → α :=
  Function.update m a (Function.update (m a) b v)

theorem update₂_apply (m : κ₁ → κ₂ → α) (a x : κ₁) (b y : κ₂) (v : α) :
    update₂ m a b v x y = if x = a ∧ y = b then v else m x y := by
  unfold update₂
  by_cases hx : x = a
  · subst hx
    by_cases hy : y = b <;> simp [hy]
  · simp [hx]

end Mapping

/-! ## 3. Signatures -/

/-- Half of the curve order: a larger `s` is the malleable twin and is refused. -/
def maxS : Nat := 0x7FFFFFFFFFFFFFFFFFFFFFFFFFFFFFFF5D576E7357A4501DDFE92F46681B20A0

/-- `r`, `s` and `v` of a 65-byte signature. -/
def sigR (signature : Bytes) : Bytes32 := wordAt signature 0
def sigS (signature : Bytes) : Bytes32 := wordAt signature 32
def sigV (signature : Bytes) : Uint8 := BitVec.ofNat 8 (signature.getD 64 0).toNat

/-- The 65-byte signature check: `signature` over `hash` recovers to `signer`. -/
def recoversTo (host : Host) (signer : Address) (hash : Bytes32) (signature : Bytes) : Bool :=
  if signature.length ≠ 65 then false
  else if (sigS signature).toNat > maxS then false
  else if sigV signature ≠ 27 ∧ sigV signature ≠ 28 then false
  else
    let recovered := host.ecrecover hash (sigV signature) (sigR signature) (sigS signature)
    recovered ≠ 0 ∧ recovered = signer

/-! ## 4. EIP-712 -/

/-- `DOMAIN_SEPARATOR` of a contract named `name`, version "1", at `this`. -/
def domainSeparator (name : String) (chainid : Uint256) (this : Address) : Bytes32 :=
  keccak256 (abiEncode
    [keccakText "EIP712Domain(string name,string version,uint256 chainId,address verifyingContract)",
     keccakText name, keccakText "1", chainid, toWord this])

/-- `keccak256(abi.encodePacked("\x19\x01", domain, structHash))`. -/
def typedDigest (domain structHash : Bytes32) : Bytes32 :=
  keccak256 ([0x19, 0x01] ++ wordBytes domain ++ wordBytes structHash)

end ContextLock.Evm
