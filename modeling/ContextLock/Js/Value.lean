/-
  Subject:   Values of the TypeScript sources: numbers, texts, hexadecimal.

  A `number` is an integer (all numbers of the sources are counts, basis points, cents and
  seconds), `NaN` or an infinity; a `bigint` is an integer, and rounds to 53 significant bits
  where it becomes a `number`. Comparisons with `NaN` are false, as in the language.
-/
import ContextLock.Evm.Word

namespace ContextLock.Js

/-! ## 1. Numbers -/

def doubleOf (n : Nat) : Nat :=
  let e := n.log2 - 52
  let q := n / 2 ^ e
  let r := n % 2 ^ e
  if e = 0 then n
  else if 2 ^ e < 2 * r ∨ (2 ^ e = 2 * r ∧ q % 2 = 1) then (q + 1) * 2 ^ e
  else q * 2 ^ e

/-- Natural numbers up to `2 ^ 53` are doubles. -/
theorem doubleOf_of_le {n : Nat} (h : n ≤ 2 ^ 53) : doubleOf n = n := by
  obtain rfl | hlt := h.eq_or_lt
  · decide
  · have he : n.log2 - 52 = 0 := by
      obtain rfl | hn := Nat.eq_zero_or_pos n
      · decide
      · have := (Nat.log2_lt hn.ne').mpr hlt
        omega
    simp only [doubleOf, he, if_true]

/-- The shortest decimal of at most `k` more digits that reads back as the double `d`; of two
    of one length, the nearer. -/
def shortestFrom (d : Nat) : Nat → Nat → Nat
  | 0, _ => d
  | k + 1, p =>
    let low := d / p * p
    let high := (d / p + 1) * p
    if doubleOf low = d ∧ (doubleOf high ≠ d ∨ d - low ≤ high - d) then low
    else if doubleOf high = d then high
    else shortestFrom d k (p / 10)

/-- The text of a double beyond `2 ^ 53`: its shortest digits, filled up with zeros, or in
    exponent form from `10 ^ 21` on. -/
def wideText (a : Int) : String :=
  let n := a.natAbs
  let s := shortestFrom n 17 (10 ^ ((Nat.toDigits 10 n).length - 1))
  let digits := Nat.toDigits 10 s
  let significant := (digits.reverse.dropWhile (· == '0')).reverse
  let sign := if a < 0 then "-" else ""
  if s < 10 ^ 21 then sign ++ toString s
  else sign ++ String.ofList (significant.take 1)
    ++ (if significant.length = 1 then "" else "." ++ String.ofList (significant.drop 1))
    ++ "e+" ++ toString (digits.length - 1)

/-- A JavaScript `number`. -/
inductive Num where
  | int (n : Int)
  | nan
  | inf (negative : Bool)
  deriving DecidableEq

namespace Num

/-- `a < b`. -/
def lt : Num → Num → Bool
  | int a, int b => a < b
  | int _, inf negative => !negative
  | inf negative, int _ => negative
  | inf a, inf b => a && !b
  | nan, _ => false
  | _, nan => false

/-- `a === b`. -/
def strictEq : Num → Num → Bool
  | int a, int b => a = b
  | inf a, inf b => a = b
  | _, _ => false

/-- `Number.isFinite(a)`. -/
def isFinite : Num → Bool
  | int _ => true
  | _ => false

/-- `String(a)`. -/
def text : Num → String
  | int a => if a.natAbs ≤ 2 ^ 53 then toString a else wideText a
  | nan => "NaN"
  | inf false => "Infinity"
  | inf true => "-Infinity"

/-- Strict equality is equality but for `NaN`. -/
theorem strictEq_iff {a b : Num} : strictEq a b = true ↔ a = b ∧ a ≠ nan := by
  cases a <;> cases b <;> simp [strictEq]

/-- `Number(n)` of a `bigint`. -/
def ofBigInt (n : Int) : Num :=
  if 1024 ≤ (doubleOf n.natAbs).log2 then inf (n < 0) else int (n.sign * doubleOf n.natAbs)

/-- **Integers up to `2 ^ 53` go through a number unchanged.** -/
theorem text_ofBigInt {n : Int} (h : n.natAbs ≤ 2 ^ 53) : (ofBigInt n).text = toString n := by
  have hd : doubleOf n.natAbs = n.natAbs := doubleOf_of_le h
  have hlt : ¬ 1024 ≤ n.natAbs.log2 := by
    obtain h0 | hn := Nat.eq_zero_or_pos n.natAbs
    · simp [h0]
    · have := (Nat.log2_lt hn.ne').mpr (h.trans_lt (Nat.pow_lt_pow_right (by decide) (by decide) :
        2 ^ 53 < 2 ^ 54))
      omega
  rw [ofBigInt, hd, if_neg hlt, Int.sign_mul_natAbs, text, if_pos h]

@[simp] theorem lt_int (a b : Int) : lt (int a) (int b) = decide (a < b) := rfl

end Num

/-- `String(b)` of a boolean. -/
def boolText (b : Bool) : String := if b then "true" else "false"

/-- `s.toLowerCase()`, for the ASCII texts of the sources. -/
def toLowerCase (s : String) : String := String.ofList (s.toList.map Char.toLower)

/-! ## 2. Hexadecimal -/

def hexDigit (n : Nat) : Char := "0123456789abcdef".toList.getD n '0'

/-- The last `k` hexadecimal digits of a number. -/
def hexDigits : Nat → Nat → List Char
  | 0, _ => []
  | k + 1, n => hexDigits k (n / 16) ++ [hexDigit (n % 16)]

/-- `0x…` of a value of `n` bytes, lower case. -/
def hexText (n value : Nat) : String := "0x" ++ String.ofList (hexDigits (2 * n) value)

/-- A `bytes32` as a hexadecimal text. -/
def hex32 (b : Evm.Bytes32) : String := hexText 32 b.toNat

end ContextLock.Js
