/-
  Subject:   A `bigint` read from a text.

  Blanks around the text are no part of it; the empty text is zero; a sign stands before decimal
  digits only, and `0b`, `0o` and `0x` before those of another base. Everything else is refused.
-/
import ContextLock.Js.Amount
import ContextLock.Js.NumText
import ContextLock.Js.Schema

namespace ContextLock.Js

def digitsIn (base : Nat) (cs : List Char) : Option Nat :=
  if cs = [] then none
  else cs.foldlM (fun n c => (digitValue c).bind fun d =>
    if d < base then some (base * n + d) else none) 0

/-- `BigInt(s)`; `none` is a `SyntaxError`. -/
def bigInt (s : String) : Option Int :=
  match (trim s).toList with
  | [] => some 0
  | '-' :: cs => (digitsIn 10 cs).map fun n => -(n : Int)
  | '+' :: cs => (digitsIn 10 cs).map Int.ofNat
  | '0' :: c :: cs =>
    if c = 'x' ∨ c = 'X' then (digitsIn 16 cs).map Int.ofNat
    else if c = 'o' ∨ c = 'O' then (digitsIn 8 cs).map Int.ofNat
    else if c = 'b' ∨ c = 'B' then (digitsIn 2 cs).map Int.ofNat
    else (digitsIn 10 ('0' :: c :: cs)).map Int.ofNat
  | cs => (digitsIn 10 cs).map Int.ofNat

example : bigInt " -12 " = some (-12) := by decide
example : bigInt "0x1F" = some 31 := by decide
example : bigInt "1.5" = none := by decide

/-! ## Digits -/

theorem digitValue_of_isDigit {c : Char} (h : c.isDigit) :
    digitValue c = some (c.toNat - 48) ∧ c.toNat - 48 < 10 := by
  have hbounds : 48 ≤ c.toNat ∧ c.toNat ≤ 57 := by
    simpa [Char.isDigit, UInt32.le_iff_toNat_le] using h
  refine ⟨?_, by omega⟩
  unfold digitValue
  rw [if_pos]
  exact ⟨by simpa [Char.le_def, UInt32.le_iff_toNat_le] using hbounds.1,
    by simpa [Char.le_def, UInt32.le_iff_toNat_le] using hbounds.2⟩

theorem foldlM_digits {cs : List Char} (h : ∀ c ∈ cs, c.isDigit) (n : Nat) :
    cs.foldlM (fun n c => (digitValue c).bind fun d =>
      if d < 10 then some (10 * n + d) else none) n = some (Nat.ofDigitChars 10 cs n) := by
  induction cs generalizing n with
  | nil => rfl
  | cons c cs ih =>
    obtain ⟨hvalue, hlt⟩ := digitValue_of_isDigit (h c List.mem_cons_self)
    rw [List.foldlM_cons, hvalue]
    simp only [Option.bind_some, if_pos hlt, Option.bind_eq_bind]
    rw [ih fun d hd => h d (List.mem_cons_of_mem c hd)]
    rfl

theorem trim_of_no_space {s : String} (h : ∀ c ∈ s.toList, isSpace c = false) : trim s = s := by
  have hdrop : ∀ cs : List Char, (∀ c ∈ cs, isSpace c = false) → cs.dropWhile isSpace = cs := by
    intro cs hcs
    cases cs with
    | nil => rfl
    | cons c cs => rw [List.dropWhile_cons_of_neg (by simp [hcs c List.mem_cons_self])]
  unfold trim
  rw [hdrop _ h, List.rdropWhile, hdrop _ fun c hc => h c (List.mem_reverse.mp hc),
    List.reverse_reverse, String.ofList_toList]

theorem isSpace_of_isDigit {c : Char} (h : c.isDigit) : isSpace c = false := by
  have hbounds : 48 ≤ c.toNat ∧ c.toNat ≤ 57 := by
    simpa [Char.isDigit, UInt32.le_iff_toNat_le] using h
  unfold isSpace
  rw [decide_eq_false_iff_not]
  omega

theorem digitsIn_ten {cs : List Char} (hne : cs ≠ []) (h : ∀ c ∈ cs, c.isDigit) :
    digitsIn 10 cs = some (Nat.ofDigitChars 10 cs 0) := by
  rw [digitsIn, if_neg hne, foldlM_digits h]

/-- **A text of digits.** -/
theorem bigInt_of_decimal {s : String} (h : isDecimal s = true) :
    bigInt s = some (decimalValue s : Int) := by
  obtain ⟨hne, hdigits⟩ : s.toList ≠ [] ∧ ∀ c ∈ s.toList, c.isDigit := by
    simpa [isDecimal] using h
  have htrim := trim_of_no_space fun c hc => isSpace_of_isDigit (hdigits c hc)
  have hten := digitsIn_ten hne hdigits
  have hvalue : (digitsIn 10 s.toList).map Int.ofNat = some (decimalValue s : Int) := by
    rw [hten]
    rfl
  have hfirst : ∀ c ∈ s.toList, c ≠ '-' ∧ c ≠ '+' ∧ c ≠ 'x' ∧ c ≠ 'X' ∧ c ≠ 'o' ∧ c ≠ 'O' ∧
      c ≠ 'b' ∧ c ≠ 'B' := by
    intro c hc
    have hdigit := hdigits c hc
    refine ⟨?_, ?_, ?_, ?_, ?_, ?_, ?_, ?_⟩ <;>
    · rintro rfl
      exact absurd hdigit (by decide)
  unfold bigInt
  rw [htrim]
  generalize s.toList = cs at hne hvalue hfirst
  split
  · exact absurd rfl hne
  · exact absurd rfl (hfirst _ List.mem_cons_self).1
  · exact absurd rfl (hfirst _ List.mem_cons_self).2.1
  · rename_i c cs
    obtain ⟨-, -, hx, hX, ho, hO, hb, hB⟩ := hfirst c (List.mem_cons_of_mem _ List.mem_cons_self)
    rw [if_neg (by simp [hx, hX]), if_neg (by simp [ho, hO]), if_neg (by simp [hb, hB])]
    exact hvalue
  · exact hvalue

/-- **The text of a number.** -/
theorem bigInt_toString (n : Int) : bigInt (toString n) = some n := by
  by_cases hn : n < 0
  · have htext : (toString n).toList = '-' :: Nat.toDigits 10 n.natAbs := by
      rw [toList_toString_int, intText, if_pos hn]
    have hdigits : ∀ c ∈ Nat.toDigits 10 n.natAbs, c.isDigit := fun c hc => isDigit_of_mem_digits hc
    have htrim : trim (toString n) = toString n := by
      refine trim_of_no_space fun c hc => ?_
      rw [htext] at hc
      rcases List.mem_cons.mp hc with rfl | hc
      · decide
      · exact isSpace_of_isDigit (hdigits c hc)
    unfold bigInt
    rw [htrim, htext]
    show (digitsIn 10 (Nat.toDigits 10 n.natAbs)).map (fun k => -(k : Int)) = some n
    rw [digitsIn_ten Nat.toDigits_ne_nil hdigits, Nat.ofDigitChars_toDigits (by decide) (by decide)]
    exact congrArg some (show -(n.natAbs : Int) = n by omega)
  · obtain ⟨m, rfl⟩ := Int.eq_ofNat_of_zero_le (not_lt.mp hn)
    show bigInt (toString m) = some (m : Int)
    rw [bigInt_of_decimal (isDecimal_toString m), decimalValue_toString]

end ContextLock.Js
