/-
  Subject:   Byte buffers of `node:crypto`: hexadecimal texts, digests, keyed digests.
-/
import ContextLock.Js.Sha256

namespace ContextLock.Js

open Evm

/-! ## 1. Hexadecimal -/

/-- `buffer.toString("hex")`. -/
def hexOf (bs : Bytes) : String := String.ofList (bs.flatMap fun b => hexDigits 2 b.toNat)

def hexPairs : List Char → Bytes
  | c :: d :: cs =>
    match digitValue c, digitValue d with
    | some high, some low => UInt8.ofNat (16 * high + low) :: hexPairs cs
    | _, _ => []
  | _ => []

/-- `Buffer.from(s, "hex")`. -/
def bufferFromHex (s : String) : Bytes := hexPairs s.toList

theorem digitValue_hexDigit {n : Nat} (h : n < 16) : digitValue (hexDigit n) = some n := by
  have hall : ∀ n < 16, digitValue (hexDigit n) = some n := by decide
  exact hall n h

/-- **What is written in hexadecimal is read back.** -/
@[simp] theorem bufferFromHex_hexOf (bs : Bytes) : bufferFromHex (hexOf bs) = bs := by
  unfold bufferFromHex hexOf
  rw [String.toList_ofList]
  induction bs with
  | nil => rfl
  | cons b bs ih =>
    have hlt : b.toNat < 256 := b.toNat_lt
    have hhigh := digitValue_hexDigit (show b.toNat / 16 % 16 < 16 by omega)
    have hlow := digitValue_hexDigit (show b.toNat % 16 < 16 by omega)
    have hbyte : 16 * (b.toNat / 16 % 16) + b.toNat % 16 = b.toNat := by omega
    have hhead : hexDigits 2 b.toNat =
        [hexDigit (b.toNat / 16 % 16), hexDigit (b.toNat % 16)] := rfl
    rw [List.flatMap_cons, hhead]
    simp only [List.cons_append, List.nil_append, hexPairs, hhigh, hlow, hbyte, UInt8.ofNat_toNat]
    exact congrArg (b :: ·) ih

/-! ## 2. Digests -/

def wordOctets (w : Nat) : Bytes :=
  [UInt8.ofNat (w / 2 ^ 24), UInt8.ofNat (w / 2 ^ 16), UInt8.ofNat (w / 2 ^ 8), UInt8.ofNat w]

open Sha256 in
/-- `createHash("sha256")`, from bytes to bytes. -/
@[irreducible] def sha256 (data : Bytes) : Bytes :=
  let m := pad data
  ((blocks (m.length / 64) m).foldl compress initial).flatMap wordOctets

/-- The key as one block, every byte changed by `mask`. -/
def keyBlock (key : Bytes) (mask : UInt8) : Bytes :=
  let short := if 64 < key.length then sha256 key else key
  (short ++ List.replicate (64 - short.length) 0).map (· ^^^ mask)

/-- `createHmac("sha256", key)`. -/
def hmacSha256 (key data : Bytes) : Bytes :=
  sha256 (keyBlock key 0x5c ++ sha256 (keyBlock key 0x36 ++ data))

/-- A keyed digest. -/
example : hexOf (hmacSha256 (textBytes "key") (textBytes "abc")) =
    "9c196e32dc0175f86f4b1cb89289d6619de6bee699e4c378e68309ed97a1a6ab" := by decide +kernel

end ContextLock.Js
