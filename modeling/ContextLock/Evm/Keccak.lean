/-
  Subject:   `keccak256` as the machine computes it.

  The permutation Keccak-f[1600] on 25 lanes (lane `x + 5 y`, each a number below `2 ^ 64`),
  and the sponge with rate 136 bytes, Keccak padding `0x01 … 0x80` and a 32-byte digest.

  A digest has 256 bits and inputs are unbounded, so `keccak256` is not injective. Where a
  result needs that two given inputs do not collide it says so with `NoCollision`, about these
  two inputs and no others.
-/
import ContextLock.Evm.Word

namespace ContextLock.Evm

namespace Keccak

/-! ## 1. The permutation -/

def mask64 : Nat := 2 ^ 64 - 1

/-- The constant XORed into lane 0 by `iota`, one for each of the 24 rounds. -/
def roundConstants : List Nat :=
  [0x0000000000000001, 0x0000000000008082, 0x800000000000808A, 0x8000000080008000,
   0x000000000000808B, 0x0000000080000001, 0x8000000080008081, 0x8000000000008009,
   0x000000000000008A, 0x0000000000000088, 0x0000000080008009, 0x000000008000000A,
   0x000000008000808B, 0x800000000000008B, 0x8000000000008089, 0x8000000000008003,
   0x8000000000008002, 0x8000000000000080, 0x000000000000800A, 0x800000008000000A,
   0x8000000080008081, 0x8000000000008080, 0x0000000080000001, 0x8000000080008008]

/-- The rotation of lane `x + 5 y` in `rho`. -/
def rotations : List Nat :=
  [0, 1, 62, 28, 27, 36, 44, 6, 55, 20, 3, 10, 43, 25, 39, 41, 45, 15, 21, 8, 18, 2, 61, 56, 14]

def rotl (x n : Nat) : Nat := ((x <<< n) &&& mask64) ||| (x >>> (64 - n))

def lane (s : List Nat) (i : Nat) : Nat := s.getD i 0

def theta (a : List Nat) : List Nat :=
  let c := (List.range 5).map fun x =>
    lane a x ^^^ lane a (x + 5) ^^^ lane a (x + 10) ^^^ lane a (x + 15) ^^^ lane a (x + 20)
  let d := (List.range 5).map fun x => lane c ((x + 4) % 5) ^^^ rotl (lane c ((x + 1) % 5)) 1
  (List.range 25).map fun i => lane a i ^^^ lane d (i % 5)

/-- `pi` after `rho`: lane `(x, y)` of the result is the rotated lane `(x + 3 y, x)`. -/
def rhoPi (a : List Nat) : List Nat :=
  (List.range 25).map fun j =>
    let i := (j % 5 + 3 * (j / 5)) % 5 + 5 * (j % 5)
    rotl (lane a i) (lane rotations i)

def chi (b : List Nat) : List Nat :=
  (List.range 25).map fun i =>
    let y := 5 * (i / 5)
    lane b i ^^^ ((lane b ((i + 1) % 5 + y) ^^^ mask64) &&& lane b ((i + 2) % 5 + y))

def iota (k : Nat) : List Nat → List Nat
  | [] => []
  | a :: as => (a ^^^ k) :: as

def round (s : List Nat) (k : Nat) : List Nat := iota k (chi (rhoPi (theta s)))

def permute (s : List Nat) : List Nat := roundConstants.foldl round s

/-! ## 2. The sponge -/

/-- The number a byte string spells, least significant byte first. -/
def leNat : Bytes → Nat
  | [] => 0
  | b :: bs => b.toNat + 256 * leNat bs

def rate : Nat := 136
def rateLanes : Nat := 17

def absorb (s : List Nat) (block : Bytes) : List Nat :=
  permute ((List.range 25).map fun i =>
    if i < rateLanes then lane s i ^^^ leNat ((block.drop (8 * i)).take 8) else lane s i)

/-- Padding to a multiple of the rate: one byte `0x81`, or `0x01`, zeros and `0x80`. -/
def pad (m : Bytes) : Bytes :=
  let q := rate - m.length % rate
  if q = 1 then m ++ [0x81] else m ++ [0x01] ++ List.replicate (q - 2) 0 ++ [0x80]

/-- The first `k` blocks of a padded message. -/
def blocks : Nat → Bytes → List Bytes
  | 0, _ => []
  | k + 1, m => m.take rate :: blocks k (m.drop rate)

def squeeze (s : List Nat) : Bytes32 :=
  BitVec.ofNat 256 (((List.range 32).map fun i => (lane s (i / 8) >>> (8 * (i % 8))) % 256).foldl
    (fun acc b => acc * 256 + b) 0)

end Keccak

open Keccak in
/-- `keccak256(m)`. -/
@[irreducible] def keccak256 (m : Bytes) : Bytes32 :=
  squeeze ((blocks ((pad m).length / rate) (pad m)).foldl absorb (List.replicate 25 0))

/-- The digest of the empty string. -/
example : keccak256 []
    = 0xc5d2460186f7233c927e7db2dcc703c0e500b653ca82273b7bfad8045d85a470#256 := by
  decide +kernel

/-! ## 3. Collisions -/

/-- The two byte strings are no collision of `keccak256`. -/
def NoCollision (m m' : Bytes) : Prop := keccak256 m = keccak256 m' → m = m'

/-- UTF-8 bytes of a text (`bytes("…")`). -/
def textBytes (s : String) : Bytes := s.toUTF8.toList

theorem toList_eq_data (bs : ByteArray) : bs.toList = bs.data.toList := by
  have hloop : ∀ (i : Nat) (r : List UInt8),
      ByteArray.toList.loop bs i r = r.reverse ++ bs.data.toList.drop i := by
    intro i r
    fun_induction ByteArray.toList.loop bs i r with
    | case1 i r hi ih =>
      have hi' : i < bs.data.toList.length := hi
      rw [ih, List.drop_eq_getElem_cons hi', List.reverse_cons, List.append_assoc]
      congr 2
      simp [ByteArray.get!, hi]
    | case2 i r hi =>
      rw [List.drop_eq_nil_of_le (by simpa using hi), List.append_nil]
  exact hloop 0 []

theorem textBytes_inj {s t : String} (h : textBytes s = textBytes t) : s = t := by
  unfold textBytes at h
  rw [toList_eq_data, toList_eq_data] at h
  exact String.toByteArray_inj.mp (ByteArray.ext (Array.toList_inj.mp h))

/-- `keccak256("…")` of a text. -/
def keccakText (s : String) : Bytes32 := keccak256 (textBytes s)

/-- The first four bytes of the hash of a function's signature. -/
def selector (signature : String) : Bytes := (wordBytes (keccakText signature)).take 4

/-- Words that are not a collision under `abi.encode` are equal when their hashes are. -/
theorem NoCollision.words {ws ws' : List Bytes32} (h : NoCollision (abiEncode ws) (abiEncode ws'))
    (he : keccak256 (abiEncode ws) = keccak256 (abiEncode ws')) : ws = ws' :=
  abiEncode_inj (h he)

end ContextLock.Evm
