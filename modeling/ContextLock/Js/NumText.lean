/-
  Subject:   The text of a `number` is that of no other.

  A number up to `2 ^ 53` is written in full, a larger one by the shortest decimal that reads back
  as it, in exponent form from `10 ^ 21` on. So the text gives back a decimal, and the decimal the
  number.
-/
import Mathlib.Data.List.TakeWhile
import ContextLock.Js.Numeral

namespace ContextLock.Js

/-! ## 1. What is written -/

/-- A value of a `number`: an integer is a double. -/
def Num.IsDouble : Num → Prop
  | .int a => doubleOf a.natAbs = a.natAbs
  | _ => True

instance : DecidablePred Num.IsDouble
  | .int a => inferInstanceAs (Decidable (doubleOf a.natAbs = a.natAbs))
  | .nan => isTrue trivial
  | .inf _ => isTrue trivial

/-- The decimal that is written for the absolute value of an integer. -/
def spelled (n : Nat) : Nat :=
  if n ≤ 2 ^ 53 then n else shortestFrom n 17 (10 ^ ((Nat.toDigits 10 n).length - 1))

/-- The digits without the zeros at their end. -/
def significant (s : Nat) : List Char :=
  ((Nat.toDigits 10 s).reverse.dropWhile (· == '0')).reverse

/-- The digits of the exponent form. -/
def mantissa (s : Nat) : List Char :=
  (significant s).take 1 ++ if (significant s).length = 1 then [] else '.' :: (significant s).drop 1

/-- How a decimal is written. -/
def magnitude (s : Nat) : List Char :=
  if s < 10 ^ 21 then Nat.toDigits 10 s
  else mantissa s ++ 'e' :: '+' :: Nat.toDigits 10 ((Nat.toDigits 10 s).length - 1)

def minus (a : Int) : List Char := if a < 0 then ['-'] else []

theorem wideText_eq (a : Int) (h : ¬ a.natAbs ≤ 2 ^ 53) :
    (wideText a).toList = minus a ++ magnitude (spelled a.natAbs) := by
  have hsign : (if a < 0 then "-" else "").toList = minus a := by
    unfold minus
    split <;> rfl
  have hspelled : spelled a.natAbs
      = shortestFrom a.natAbs 17 (10 ^ ((Nat.toDigits 10 a.natAbs).length - 1)) := if_neg h
  unfold wideText
  simp only [← hspelled]
  unfold magnitude
  split
  · rw [String.toList_append, hsign, Nat.toString_eq_repr, Nat.repr_eq_ofList_toDigits,
      String.toList_ofList]
  · have hpoint : (if (significant (spelled a.natAbs)).length = 1 then ""
          else "." ++ String.ofList ((significant (spelled a.natAbs)).drop 1)).toList
        = if (significant (spelled a.natAbs)).length = 1 then []
          else '.' :: (significant (spelled a.natAbs)).drop 1 := by
      split
      · rfl
      · simp only [String.toList_append, String.toList_ofList]
        rfl
    show (_ ++ String.ofList ((significant (spelled a.natAbs)).take 1) ++ _ ++ "e+" ++ _).toList = _
    simp only [String.toList_append, String.toList_ofList, hsign]
    unfold significant at hpoint
    rw [hpoint, Nat.toString_eq_repr, Nat.repr_eq_ofList_toDigits, String.toList_ofList]
    simp [mantissa, significant]

/-- The text of a `bigint`. -/
theorem toList_toString_int (a : Int) : (toString a).toList = intText a := by
  cases a with
  | ofNat n =>
    have hpos : ¬ Int.ofNat n < 0 := by simp
    show (toString n).toList = _
    rw [Nat.toString_eq_repr, Nat.repr_eq_ofList_toDigits, String.toList_ofList, intText,
      if_neg hpos]
    rfl
  | negSucc n =>
    show ("-" ++ Nat.repr (n + 1)).toList = _
    rw [intText, if_pos (Int.negSucc_lt_zero n)]
    simp only [String.toList_append, Nat.repr_eq_ofList_toDigits, String.toList_ofList]
    rfl

theorem toString_int_inj {a b : Int} (h : toString a = toString b) : a = b := by
  have hlists := congrArg String.toList h
  rw [toList_toString_int, toList_toString_int] at hlists
  exact intText_inj hlists

theorem intText_eq (a : Int) : intText a = minus a ++ Nat.toDigits 10 a.natAbs := by
  unfold intText minus
  split <;> rfl

/-- **The text of an integer**: its sign, and the decimal that is written for it. -/
theorem Num.text_int (a : Int) :
    (Num.text (.int a)).toList = minus a ++ magnitude (spelled a.natAbs) := by
  show (if a.natAbs ≤ 2 ^ 53 then toString a else wideText a).toList = _
  by_cases hsmall : a.natAbs ≤ 2 ^ 53
  · rw [if_pos hsmall, spelled, if_pos hsmall, magnitude, if_pos (by omega), toList_toString_int,
      intText_eq]
  · rw [if_neg hsmall]
    exact wideText_eq a hsmall

/-! ## 2. One decimal, one number -/

theorem doubleOf_shortestFrom {d : Nat} (hd : doubleOf d = d) (k p : Nat) :
    doubleOf (shortestFrom d k p) = d := by
  induction k generalizing p with
  | zero => exact hd
  | succ k ih =>
    unfold shortestFrom
    dsimp only
    split
    · next h => exact h.1
    · split
      · next h => exact h
      · exact ih _

/-- **The decimal that is written reads back as the number.** -/
theorem doubleOf_spelled {n : Nat} (hn : doubleOf n = n) : doubleOf (spelled n) = n := by
  unfold spelled
  split
  · exact hn
  · exact doubleOf_shortestFrom hn _ _

/-! ## 3. One text, one decimal -/

theorem digits_ne_nil (s : Nat) : Nat.toDigits 10 s ≠ [] := Nat.toDigits_ne_nil

theorem mem_digits_of_mem_significant {s : Nat} {c : Char} (h : c ∈ significant s) :
    c ∈ Nat.toDigits 10 s := by
  have hdrop := (List.dropWhile_sublist (· == '0')).subset (List.mem_reverse.mp h)
  exact List.mem_reverse.mp hdrop

theorem digits_eq (s : Nat) : Nat.toDigits 10 s = significant s ++
    List.replicate ((Nat.toDigits 10 s).length - (significant s).length) '0' := by
  have hsplit := List.takeWhile_append_dropWhile (p := (· == '0')) (l := (Nat.toDigits 10 s).reverse)
  have hzeros : (Nat.toDigits 10 s).reverse.takeWhile (· == '0')
      = List.replicate ((Nat.toDigits 10 s).reverse.takeWhile (· == '0')).length '0' :=
    List.eq_replicate_of_mem fun c hc => by simpa using List.mem_takeWhile_imp hc
  have hreverse := congrArg List.reverse hsplit
  rw [List.reverse_append, List.reverse_reverse] at hreverse
  have hlength := congrArg List.length hreverse
  rw [List.length_append, @List.length_reverse _ (List.takeWhile _ _)] at hlength
  have hcount : (Nat.toDigits 10 s).length - (significant s).length
      = ((Nat.toDigits 10 s).reverse.takeWhile (· == '0')).length := by
    unfold significant
    omega
  rw [hcount]
  conv => lhs; rw [← hreverse, hzeros, List.reverse_replicate]
  rfl

theorem filter_mantissa (s : Nat) : (mantissa s).filter (· ≠ '.') = significant s := by
  have hall : ∀ cs : List Char, (∀ c ∈ cs, c ∈ significant s) → cs.filter (· ≠ '.') = cs := by
    intro cs hcs
    refine List.filter_eq_self.mpr fun c hc => decide_eq_true ?_
    intro hpoint
    subst hpoint
    exact not_mem_digits rfl (mem_digits_of_mem_significant (hcs '.' hc))
  unfold mantissa
  rw [List.filter_append, hall _ fun c hc => List.mem_of_mem_take hc]
  by_cases hone : (significant s).length = 1
  · rw [if_pos hone, List.filter_nil, List.append_nil]
    exact List.take_of_length_le hone.le
  · rw [if_neg hone, List.filter_cons_of_neg (by decide), hall _ fun c hc => List.mem_of_mem_drop hc]
    exact List.take_append_drop 1 _

theorem mem_mantissa {s : Nat} {c : Char} (h : c ∈ mantissa s) : c.isDigit ∨ c = '.' := by
  unfold mantissa at h
  rcases List.mem_append.mp h with h | h
  · exact .inl (isDigit_of_mem_digits (mem_digits_of_mem_significant (List.mem_of_mem_take h)))
  · split at h
    · exact absurd h List.not_mem_nil
    · rcases List.mem_cons.mp h with rfl | h
      · exact .inr rfl
      · exact .inl (isDigit_of_mem_digits (mem_digits_of_mem_significant (List.mem_of_mem_drop h)))

theorem e_not_mem_mantissa (s : Nat) : 'e' ∉ mantissa s := by
  intro h
  rcases mem_mantissa h with h | h
  · exact absurd h (by decide)
  · exact absurd h (by decide)

/-- **A decimal is known by how it is written.** -/
theorem magnitude_inj {s t : Nat} (h : magnitude s = magnitude t) : s = t := by
  have hmixed : ∀ {s t : Nat}, s < 10 ^ 21 → ¬ t < 10 ^ 21 → magnitude s ≠ magnitude t := by
    intro s t hs ht heq
    unfold magnitude at heq
    rw [if_pos hs, if_neg ht] at heq
    have hmem : 'e' ∈ Nat.toDigits 10 s := by
      rw [heq]
      exact List.mem_append_right _ List.mem_cons_self
    exact not_mem_digits rfl hmem
  by_cases hs : s < 10 ^ 21
  · by_cases ht : t < 10 ^ 21
    · unfold magnitude at h
      rw [if_pos hs, if_pos ht] at h
      exact digits_inj h
    · exact absurd h (hmixed hs ht)
  · by_cases ht : t < 10 ^ 21
    · exact absurd h.symm (hmixed ht hs)
    · unfold magnitude at h
      rw [if_neg hs, if_neg ht] at h
      have hpower : ∀ n, 'e' ∉ '+' :: Nat.toDigits 10 n := by
        intro n hmem
        rcases List.mem_cons.mp hmem with hplus | hdigit
        · exact absurd hplus (by decide)
        · exact not_mem_digits rfl hdigit
      obtain ⟨hmantissa, -, hrest⟩ :=
        (List.append_cons_inj_of_notMem (e_not_mem_mantissa s) (hpower _)).mp h
      have hsignificant : significant s = significant t := by
        rw [← filter_mantissa, ← filter_mantissa, hmantissa]
      have hlength := digits_inj (List.cons.inj hrest).2
      have hs := List.length_pos_iff.mpr (digits_ne_nil s)
      have ht := List.length_pos_iff.mpr (digits_ne_nil t)
      refine digits_inj ?_
      rw [digits_eq s, digits_eq t, hsignificant]
      congr 2
      omega

theorem numberChar_of_mem_magnitude {s : Nat} {c : Char} (h : c ∈ magnitude s) :
    numberChar c = true := by
  unfold magnitude at h
  split at h
  · exact numberChar_of_isDigit (isDigit_of_mem_digits h)
  · rcases List.mem_append.mp h with h | h
    · rcases mem_mantissa h with hdigit | rfl
      · exact numberChar_of_isDigit hdigit
      · decide
    · rcases List.mem_cons.mp h with rfl | h
      · decide
      · rcases List.mem_cons.mp h with rfl | h
        · decide
        · exact numberChar_of_isDigit (isDigit_of_mem_digits h)

theorem minus_not_mem_magnitude (s : Nat) : '-' ∉ magnitude s := by
  intro h
  unfold magnitude at h
  split at h
  · exact not_mem_digits rfl h
  · rcases List.mem_append.mp h with h | h
    · rcases mem_mantissa h with hdigit | hpoint
      · exact absurd hdigit (by decide)
      · exact absurd hpoint (by decide)
    · rcases List.mem_cons.mp h with h | h
      · exact absurd h (by decide)
      · rcases List.mem_cons.mp h with h | h
        · exact absurd h (by decide)
        · exact not_mem_digits rfl h

theorem numberChar_of_mem_text {a : Int} {c : Char} (h : c ∈ (Num.text (.int a)).toList) :
    numberChar c = true := by
  rw [Num.text_int] at h
  rcases List.mem_append.mp h with h | h
  · unfold minus at h
    split at h
    · rw [List.mem_singleton.mp h]
      decide
    · exact absurd h List.not_mem_nil
  · exact numberChar_of_mem_magnitude h

theorem bar_not_mem_text (x : Num) : '|' ∉ x.text.toList := by
  cases x with
  | int a => exact fun h => absurd (numberChar_of_mem_text h) (by decide)
  | nan => decide
  | inf negative => cases negative <;> decide

theorem bar_not_mem_toString (a : Int) : '|' ∉ (toString a).toList := by
  rw [toList_toString_int]
  exact fun h => absurd (numberChar_intText h) (by decide)

theorem minus_append_inj {a b : Int} {s t : List Char} (hs : '-' ∉ s) (ht : '-' ∉ t)
    (h : minus a ++ s = minus b ++ t) : (a < 0 ↔ b < 0) ∧ s = t := by
  unfold minus at h
  by_cases ha : a < 0
  · by_cases hb : b < 0
    · rw [if_pos ha, if_pos hb] at h
      exact ⟨iff_of_true ha hb, (List.cons.inj h).2⟩
    · rw [if_pos ha, if_neg hb, List.nil_append] at h
      exact absurd (h ▸ List.mem_cons_self) ht
  · by_cases hb : b < 0
    · rw [if_neg ha, if_pos hb, List.nil_append] at h
      exact absurd (h ▸ List.mem_cons_self) hs
    · rw [if_neg ha, if_neg hb] at h
      exact ⟨iff_of_false ha hb, h⟩

/-- **A number is known by its text.** -/
theorem Num.text_inj {x y : Num} (hx : x.IsDouble) (hy : y.IsDouble) (h : x.text = y.text) :
    x = y := by
  have hlists := congrArg String.toList h
  -- the texts that are no digits have a letter in them
  have hletter : ∀ {a : Int} {t : List Char}, (Num.text (.int a)).toList = t →
      (∃ c ∈ t, numberChar c = false) → False := by
    intro a t htext hmem
    obtain ⟨c, hc, hno⟩ := hmem
    rw [← htext] at hc
    rw [numberChar_of_mem_text hc] at hno
    cases hno
  cases x with
  | int a =>
    cases y with
    | int b =>
      rw [Num.text_int, Num.text_int] at hlists
      obtain ⟨hsign, hmagnitude⟩ := minus_append_inj (minus_not_mem_magnitude _)
        (minus_not_mem_magnitude _) hlists
      have hdouble := congrArg doubleOf (magnitude_inj hmagnitude)
      rw [doubleOf_spelled hx, doubleOf_spelled hy] at hdouble
      congr 1
      omega
    | nan => exact (hletter hlists ⟨'N', by decide, by decide⟩).elim
    | inf negative => exact (hletter hlists ⟨'I', by cases negative <;> decide, by decide⟩).elim
  | nan =>
    cases y with
    | int b => exact (hletter hlists.symm ⟨'N', by decide, by decide⟩).elim
    | nan => rfl
    | inf negative => cases negative <;> exact absurd h (by decide)
  | inf negative =>
    cases y with
    | int b => exact (hletter hlists.symm ⟨'I', by cases negative <;> decide, by decide⟩).elim
    | nan => cases negative <;> exact absurd h (by decide)
    | inf negative' => cases negative <;> cases negative' <;> first | rfl | exact absurd h (by decide)

end ContextLock.Js
