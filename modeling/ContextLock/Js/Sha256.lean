/-
  Subject:   `sha256` of `node:crypto`, and canonical serialization over JSON values.

  Numbers below `2 ^ 32` are the words of the compression function. The padded message is cut
  into blocks of 64 bytes, and the digest is the eight words of the chaining value.
-/
import Mathlib
import ContextLock.Js.Object

namespace ContextLock.Js

namespace Sha256

/-! ## 1. The compression function -/

def mask32 : Nat := 2 ^ 32 - 1

def add (x y : Nat) : Nat := (x + y) &&& mask32

def rotr (x n : Nat) : Nat := (x >>> n) ||| ((x <<< (32 - n)) &&& mask32)

def roundConstants : List Nat :=
  [0x428a2f98, 0x71374491, 0xb5c0fbcf, 0xe9b5dba5, 0x3956c25b, 0x59f111f1, 0x923f82a4, 0xab1c5ed5,
   0xd807aa98, 0x12835b01, 0x243185be, 0x550c7dc3, 0x72be5d74, 0x80deb1fe, 0x9bdc06a7, 0xc19bf174,
   0xe49b69c1, 0xefbe4786, 0x0fc19dc6, 0x240ca1cc, 0x2de92c6f, 0x4a7484aa, 0x5cb0a9dc, 0x76f988da,
   0x983e5152, 0xa831c66d, 0xb00327c8, 0xbf597fc7, 0xc6e00bf3, 0xd5a79147, 0x06ca6351, 0x14292967,
   0x27b70a85, 0x2e1b2138, 0x4d2c6dfc, 0x53380d13, 0x650a7354, 0x766a0abb, 0x81c2c92e, 0x92722c85,
   0xa2bfe8a1, 0xa81a664b, 0xc24b8b70, 0xc76c51a3, 0xd192e819, 0xd6990624, 0xf40e3585, 0x106aa070,
   0x19a4c116, 0x1e376c08, 0x2748774c, 0x34b0bcb5, 0x391c0cb3, 0x4ed8aa4a, 0x5b9cca4f, 0x682e6ff3,
   0x748f82ee, 0x78a5636f, 0x84c87814, 0x8cc70208, 0x90befffa, 0xa4506ceb, 0xbef9a3f7, 0xc67178f2]

/-- The chaining value before the first block. -/
def initial : List Nat :=
  [0x6a09e667, 0xbb67ae85, 0x3c6ef372, 0xa54ff53a, 0x510e527f, 0x9b05688c, 0x1f83d9ab, 0x5be0cd19]

/-- `k` more words of the message schedule; `ws` holds the last sixteen, newest first. -/
def schedule : Nat → List Nat → List Nat
  | 0, _ => []
  | k + 1, ws =>
    let x := ws.getD 14 0
    let y := ws.getD 1 0
    let s0 := rotr x 7 ^^^ rotr x 18 ^^^ (x >>> 3)
    let s1 := rotr y 17 ^^^ rotr y 19 ^^^ (y >>> 10)
    let w := add (add (ws.getD 15 0) s0) (add (ws.getD 6 0) s1)
    w :: schedule k (w :: ws.take 15)

/-- One round, on the eight working words. -/
def round (s : List Nat) (kw : Nat × Nat) : List Nat :=
  match s with
  | [a, b, c, d, e, f, g, h] =>
    let s1 := rotr e 6 ^^^ rotr e 11 ^^^ rotr e 25
    let ch := (e &&& f) ^^^ ((e ^^^ mask32) &&& g)
    let t1 := add (add (add h s1) (add ch kw.1)) kw.2
    let s0 := rotr a 2 ^^^ rotr a 13 ^^^ rotr a 22
    let maj := (a &&& b) ^^^ (a &&& c) ^^^ (b &&& c)
    [add t1 (add s0 maj), a, b, c, add d t1, e, f, g]
  | s => s

/-- The big-endian number of a byte string. -/
def beNat (bs : Evm.Bytes) : Nat := bs.foldl (fun n b => n * 256 + b.toNat) 0

def compress (h : List Nat) (block : Evm.Bytes) : List Nat :=
  let ws := (List.range 16).map fun i => beNat ((block.drop (4 * i)).take 4)
  let all := ws ++ schedule 48 ws.reverse
  List.zipWith add h ((roundConstants.zip all).foldl round h)

/-! ## 2. The digest -/

/-- Padding: a byte `0x80`, zeros, and the length in bits as eight bytes. -/
def pad (m : Evm.Bytes) : Evm.Bytes :=
  m ++ [0x80] ++ List.replicate ((119 - m.length % 64) % 64) 0
    ++ (List.range 8).map fun i => UInt8.ofNat (8 * m.length / 256 ^ (7 - i))

def blocks : Nat → Evm.Bytes → List Evm.Bytes
  | 0, _ => []
  | k + 1, m => m.take 64 :: blocks k (m.drop 64)

end Sha256

open Sha256 in
/-- `sha256Hex`: the digest of a text, as 64 hexadecimal digits. -/
@[irreducible] def sha256Hex (data : String) : String :=
  let m := pad (Evm.textBytes data)
  String.ofList (((blocks (m.length / 64) m).foldl compress initial).flatMap (hexDigits 8))

/-- The digest of a text shorter than a block. -/
example : sha256Hex "abc" = "ba7816bf8f01cfea414140de5dae2223b00361a396177a9cb410ff61f20015ad" := by
  decide +kernel

/-! ## 3. Canonical serialization -/

def codeUnits (s : String) : List Nat :=
  s.toList.flatMap fun c =>
    if c.toNat < 0x10000 then [c.toNat]
    else [0xd800 + (c.toNat - 0x10000) / 0x400, 0xdc00 + (c.toNat - 0x10000) % 0x400]

/-- `a` comes before `b` or is `b`, in the order of `Array.prototype.sort` on texts. -/
def textLe (a b : String) : Bool := codeUnits a ≤ codeUnits b

def insertField {α : Type} (f : String × α) : List (String × α) → List (String × α)
  | [] => [f]
  | g :: gs => if textLe f.1 g.1 then f :: g :: gs else g :: insertField f gs

/-- `canonicalize`: the JSON text with the keys of every record sorted and no whitespace. -/
def canonicalize : Json → String
  | .null => "null"
  | .bool b => boolText b
  | .num (.int n) => (Num.int n).text
  | .num _ => "null"
  | .str s => jsonText s
  | .arr items => "[" ++ ",".intercalate (canonicalizeItems items) ++ "]"
  | .obj fields =>
    "\x7b" ++ ",".intercalate ((canonicalizeFields fields).map fun f => jsonText f.1 ++ ":" ++ f.2)
      ++ "\x7d"
where
  canonicalizeItems : List Json → List String
    | [] => []
    | j :: js => canonicalize j :: canonicalizeItems js
  canonicalizeFields : List (String × Json) → List (String × String)
    | [] => []
    | (k, j) :: fs => insertField (k, canonicalize j) (canonicalizeFields fs)

/-- `digestOf`: `sha256:` and the digest of the canonical text. -/
def digestOf (value : Json) : String := "sha256:" ++ sha256Hex (canonicalize value)

end ContextLock.Js
