/-
  Subject:   Machine words, byte strings and the ABI encoding of static words.

  Solidity's fixed-width types are bit vectors of that width; a byte string is a list of
  bytes. Values narrower than a word are widened (zeros on the left) before they are encoded,
  as `abi.encode` does.
-/
import Mathlib.Data.Nat.Basic
import Mathlib.Data.List.Basic
import Mathlib.Tactic.Ring

namespace ContextLock.Evm

abbrev Bytes := List UInt8
abbrev Bytes32 := BitVec 256
abbrev Uint256 := BitVec 256
abbrev Uint64 := BitVec 64
abbrev Uint8 := BitVec 8
abbrev Bytes4 := BitVec 32
abbrev Address := BitVec 160

abbrev toWord {n : Nat} (x : BitVec n) : Bytes32 := x.setWidth 256

/-- `uint256(b)` of a Solidity `bool`. -/
def boolWord (b : Bool) : Bytes32 := if b then 1 else 0

theorem toWord_inj {n : Nat} (hn : n ≤ 256) {x y : BitVec n} (h : toWord x = toWord y) :
    x = y := by
  have hp : 2 ^ n ≤ 2 ^ 256 := Nat.pow_le_pow_right (by decide) hn
  have hx := x.isLt
  have hy := y.isLt
  have ht := congrArg BitVec.toNat h
  simp only [toWord, BitVec.toNat_setWidth] at ht
  rw [Nat.mod_eq_of_lt (by omega), Nat.mod_eq_of_lt (by omega)] at ht
  exact BitVec.eq_of_toNat_eq ht

theorem word_lt_of_lt_of_le {x y z : Bytes32} (h : x < y) (h' : y ≤ z) : x < z := by
  rw [BitVec.lt_def] at h ⊢
  rw [BitVec.le_def] at h'
  omega

/-- A word as a value of a narrower type; `none` where the upper bits are not zero. -/
def narrow (n : Nat) (w : Bytes32) : Option (BitVec n) :=
  if w.toNat < 2 ^ n then some (w.setWidth n) else none

theorem narrow_toWord {n : Nat} (hn : n ≤ 256) (x : BitVec n) : narrow n (toWord x) = some x := by
  have hp : 2 ^ n ≤ 2 ^ 256 := Nat.pow_le_pow_right (by decide) hn
  have hx := x.isLt
  have ht : (toWord x).toNat = x.toNat := by
    simp only [toWord, BitVec.toNat_setWidth]
    exact Nat.mod_eq_of_lt (by omega)
  unfold narrow
  rw [ht, if_pos hx]
  congr 1
  apply BitVec.eq_of_toNat_eq
  rw [BitVec.toNat_setWidth, ht]
  exact Nat.mod_eq_of_lt hx

/-! ## 1. Big-endian bytes -/

/-- The last `k` bytes of `n`, most significant byte first. -/
def beBytes : Nat → Nat → Bytes
  | 0, _ => []
  | k + 1, n => beBytes k (n / 256) ++ [UInt8.ofNat n]

/-- The number a byte string spells, most significant byte first. -/
def beNat (bs : Bytes) : Nat := bs.foldl (fun acc b => acc * 256 + b.toNat) 0

@[simp] theorem beBytes_length (k n : Nat) : (beBytes k n).length = k := by
  induction k generalizing n with
  | zero => rfl
  | succ k ih => simp [beBytes, ih]

theorem beNat_concat (bs : Bytes) (b : UInt8) : beNat (bs ++ [b]) = beNat bs * 256 + b.toNat := by
  simp [beNat, List.foldl_append]

/-- **Big-endian bytes read back**: `k` bytes hold the number modulo `256 ^ k`. -/
theorem beNat_beBytes (k n : Nat) : beNat (beBytes k n) = n % 256 ^ k := by
  induction k generalizing n with
  | zero => simp [beBytes, beNat, Nat.mod_one]
  | succ k ih =>
    rw [beBytes, beNat_concat, ih, pow_succ', Nat.mod_mul]
    simp only [UInt8.toNat_ofNat']
    ring_nf

/-! ## 2. Words -/

def wordBytes (w : Bytes32) : Bytes := beBytes 32 w.toNat

/-- The word at byte `off` of a byte string (`calldataload`; bytes past the end are missing,
    so callers check the length first). -/
def wordAt (bs : Bytes) (off : Nat) : Bytes32 := BitVec.ofNat 256 (beNat ((bs.drop off).take 32))

@[simp] theorem wordBytes_length (w : Bytes32) : (wordBytes w).length = 32 := beBytes_length _ _

/-- **A word is read back from its bytes**, wherever they stand. -/
theorem wordAt_wordBytes (pre : Bytes) (w : Bytes32) (post : Bytes) :
    wordAt (pre ++ wordBytes w ++ post) pre.length = w := by
  have hlt : w.toNat < 256 ^ 32 := w.isLt
  unfold wordAt
  rw [List.append_assoc, List.drop_left, List.take_left' (wordBytes_length w), wordBytes,
    beNat_beBytes, Nat.mod_eq_of_lt hlt, BitVec.ofNat_toNat, BitVec.setWidth_eq]

theorem wordBytes_inj {v w : Bytes32} (h : wordBytes v = wordBytes w) : v = w := by
  have hv := wordAt_wordBytes [] v []
  have hw := wordAt_wordBytes [] w []
  rw [← hv, ← hw, h]

/-! ## 3. `abi.encode` of static words -/

/-- `abi.encode` of values that each take one word. -/
def abiEncode (ws : List Bytes32) : Bytes := ws.flatMap wordBytes

theorem abiEncode_cons (w : Bytes32) (ws : List Bytes32) :
    abiEncode (w :: ws) = wordBytes w ++ abiEncode ws := rfl

@[simp] theorem abiEncode_length (ws : List Bytes32) : (abiEncode ws).length = 32 * ws.length := by
  induction ws with
  | nil => rfl
  | cons w ws ih =>
    rw [abiEncode_cons, List.length_append, wordBytes_length, ih, List.length_cons]
    omega

theorem abiEncode_append (ws vs : List Bytes32) :
    abiEncode (ws ++ vs) = abiEncode ws ++ abiEncode vs := List.flatMap_append

/-- **`abi.encode` of static words is injective.** -/
theorem abiEncode_inj {ws ws' : List Bytes32} (h : abiEncode ws = abiEncode ws') : ws = ws' := by
  induction ws generalizing ws' with
  | nil =>
    have hl := congrArg List.length h
    simp only [abiEncode_length, List.length_nil] at hl
    exact (List.length_eq_zero_iff.mp (by omega)).symm
  | cons w ws ih =>
    cases ws' with
    | nil =>
      have hl := congrArg List.length h
      simp only [abiEncode_length, List.length_cons, List.length_nil] at hl
      omega
    | cons w' ws' =>
      have hsplit := List.append_inj h (by simp)
      rw [wordBytes_inj hsplit.1, ih hsplit.2]

/-- The `i`-th word of an encoding is read back. -/
theorem wordAt_abiEncode {ws : List Bytes32} {i : Nat} (hi : i < ws.length) :
    wordAt (abiEncode ws) (32 * i) = ws[i] := by
  have hs : abiEncode ws
      = abiEncode (ws.take i) ++ wordBytes ws[i] ++ abiEncode (ws.drop (i + 1)) := by
    conv_lhs => rw [← List.take_append_drop i ws, List.drop_eq_getElem_cons hi]
    rw [abiEncode_append, abiEncode_cons, List.append_assoc]
  have hl : (abiEncode (ws.take i)).length = 32 * i := by
    rw [abiEncode_length, List.length_take]
    omega
  have hw := wordAt_wordBytes (abiEncode (ws.take i)) ws[i] (abiEncode (ws.drop (i + 1)))
  rw [hl] at hw
  rw [hs]
  exact hw

end ContextLock.Evm
