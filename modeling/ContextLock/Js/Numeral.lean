/-
  Subject:   Finite numbers of the language by their shortest decimals, and their texts.

  A finite number is known by the shortest decimal that reads back as it: an integer below
  `10 ^ 21`, which is written out, or another decimal, in fixed or in exponent form.
-/
import ContextLock.Js.Object

namespace ContextLock.Js

/-! ## 1. Numbers -/

def digitCount (n : Nat) : Nat := (Nat.toDigits 10 n).length

/-- A decimal `± mantissa * 10 ^ exponent` that is no integer below `10 ^ 21`, without a zero at
    the end of its mantissa. -/
structure Decimal where
  negative : Bool
  mantissa : Nat
  exponent : Int
  normal : mantissa % 10 ≠ 0
  wide : exponent < 0 ∨ 21 < digitCount mantissa + exponent

/-- A finite number; zero has no sign. -/
inductive Numeral where
  | int (n : Int)
  | decimal (d : Decimal)

/-! ## 2. Texts -/

def intText (n : Int) : List Char :=
  if n < 0 then '-' :: Nat.toDigits 10 n.natAbs else Nat.toDigits 10 n.natAbs

namespace Decimal

def point (d : Decimal) : Int := digitCount d.mantissa + d.exponent

/-- The point stands among the digits, or at most six zeros before them. -/
def Fixed (d : Decimal) : Prop := d.exponent < 0 ∧ -6 < d.point ∧ d.point ≤ 21

instance : DecidablePred Fixed := fun _ => inferInstanceAs (Decidable (_ ∧ _))

/-- The digits, a point, and as many digits as the exponent says. -/
def fixedText (d : Decimal) : List Char :=
  let places := d.exponent.natAbs
  Nat.toDigits 10 (d.mantissa / 10 ^ places) ++ '.' :: decimals places (d.mantissa % 10 ^ places)

/-- The digits before the `e`. -/
def significand (d : Decimal) : List Char :=
  let digits := Nat.toDigits 10 d.mantissa
  digits.take 1 ++ if digits.drop 1 = [] then [] else '.' :: digits.drop 1

/-- The sign and the digits after the `e`. -/
def power (d : Decimal) : List Char :=
  (if d.point - 1 < 0 then '-' else '+') :: Nat.toDigits 10 (d.point - 1).natAbs

/-- The text without its sign. -/
def unsigned (d : Decimal) : List Char :=
  if d.Fixed then d.fixedText else d.significand ++ 'e' :: d.power

def text (d : Decimal) : List Char :=
  if d.negative then '-' :: d.unsigned else d.unsigned

end Decimal

/-- `String(a)` of a finite number. -/
def Numeral.text : Numeral → List Char
  | int n => intText n
  | decimal d => d.text

/-- 1.5, a tenth of a millionth and `10 ^ 21`. -/
example : (Numeral.decimal ⟨false, 15, -1, by decide, by decide⟩).text = "1.5".toList ∧
    (Numeral.decimal ⟨true, 1, -7, by decide, by decide⟩).text = "-1e-7".toList ∧
    (Numeral.decimal ⟨false, 1, 21, by decide, by decide⟩).text = "1e+21".toList := by
  decide

/-! ## 3. Digits -/

theorem isDigit_of_mem_digits {n : Nat} {c : Char} (h : c ∈ Nat.toDigits 10 n) : c.isDigit :=
  Nat.isDigit_of_mem_toDigits (by decide) (by decide) h

theorem not_mem_digits {n : Nat} {c : Char} (hc : c.isDigit = false) : c ∉ Nat.toDigits 10 n := by
  intro h
  rw [isDigit_of_mem_digits h] at hc
  cases hc

theorem digits_inj {m n : Nat} (h : Nat.toDigits 10 m = Nat.toDigits 10 n) : m = n := by
  have hread := congrArg (Nat.ofDigitChars 10 · 0) h
  simpa only [Nat.ofDigitChars_ten_toDigits] using hread

theorem length_decimals (k n : Nat) : (decimals k n).length = k := by
  induction k generalizing n with
  | zero => rfl
  | succ k ih => rw [decimals, List.length_append, ih, List.length_singleton]

theorem hexDigit_inj {m n : Nat} (hm : m < 16) (hn : n < 16) (h : hexDigit m = hexDigit n) :
    m = n := by
  have hall : ∀ m < 16, ∀ n < 16, hexDigit m = hexDigit n → m = n := by decide
  exact hall m hm n hn h

/-- The last `k` digits spell a number up to `10 ^ k`. -/
theorem decimals_inj {k m n : Nat} (hm : m < 10 ^ k) (hn : n < 10 ^ k)
    (h : decimals k m = decimals k n) : m = n := by
  induction k generalizing m n with
  | zero => omega
  | succ k ih =>
    rw [Nat.pow_succ] at hm hn
    obtain ⟨hinit, hlast⟩ := List.append_inj' h rfl
    have hdiv : m / 10 = n / 10 := ih (by omega) (by omega) hinit
    have hmod : m % 10 = n % 10 :=
      hexDigit_inj (by omega) (by omega) (List.singleton_injective hlast)
    omega

theorem length_hexDigits (k n : Nat) : (hexDigits k n).length = k := by
  induction k generalizing n with
  | zero => rfl
  | succ k ih => rw [hexDigits, List.length_append, ih, List.length_singleton]

/-- The last `k` hexadecimal digits spell a number up to `16 ^ k`. -/
theorem hexDigits_inj {k m n : Nat} (hm : m < 16 ^ k) (hn : n < 16 ^ k)
    (h : hexDigits k m = hexDigits k n) : m = n := by
  induction k generalizing m n with
  | zero => omega
  | succ k ih =>
    rw [Nat.pow_succ] at hm hn
    obtain ⟨hinit, hlast⟩ := List.append_inj' h rfl
    have hdiv : m / 16 = n / 16 := ih (by omega) (by omega) hinit
    have hmod : m % 16 = n % 16 :=
      hexDigit_inj (by omega) (by omega) (List.singleton_injective hlast)
    omega

/-- A `bytes32` is known by its text. -/
theorem hex32_inj {a b : Evm.Bytes32} (h : hex32 a = hex32 b) : a = b := by
  have hlists := congrArg String.toList h
  simp only [hex32, hexText, String.toList_append, String.toList_ofList] at hlists
  have hdigits := List.append_cancel_left hlists
  exact BitVec.eq_of_toNat_eq (hexDigits_inj (k := 64) a.isLt b.isLt hdigits)

/-! ## 4. One text, one number -/

section Injective

variable {d e : Decimal}

theorem isDigit_or_point_of_mem_significand {c : Char} (h : c ∈ d.significand) :
    c.isDigit ∨ c = '.' := by
  unfold Decimal.significand at h
  rcases List.mem_append.mp h with h | h
  · exact Or.inl (isDigit_of_mem_digits (List.mem_of_mem_take h))
  · split at h
    · exact absurd h List.not_mem_nil
    · rcases List.mem_cons.mp h with rfl | h
      · exact Or.inr rfl
      · exact Or.inl (isDigit_of_mem_digits (List.mem_of_mem_drop h))

theorem filter_significand : d.significand.filter (· ≠ '.') = Nat.toDigits 10 d.mantissa := by
  have hall : ∀ cs : List Char, (∀ c ∈ cs, c ∈ Nat.toDigits 10 d.mantissa) →
      cs.filter (· ≠ '.') = cs := by
    intro cs hcs
    refine List.filter_eq_self.mpr fun c hc => decide_eq_true ?_
    rintro rfl
    exact not_mem_digits rfl (hcs '.' hc)
  unfold Decimal.significand
  rw [List.filter_append, hall _ fun c hc => List.mem_of_mem_take hc]
  by_cases hnil : (Nat.toDigits 10 d.mantissa).drop 1 = []
  · rw [if_pos hnil, List.filter_nil]
    have hsplit := List.take_append_drop 1 (Nat.toDigits 10 d.mantissa)
    rw [hnil] at hsplit
    exact hsplit
  · rw [if_neg hnil, List.filter_cons_of_neg (by decide), hall _ fun c hc => List.mem_of_mem_drop hc]
    exact List.take_append_drop 1 _

theorem power_inj (h : d.power = e.power) : d.point = e.point := by
  unfold Decimal.power at h
  obtain ⟨hsign, hdigits⟩ := List.cons.inj h
  have habs := digits_inj hdigits
  by_cases hd : d.point - 1 < 0
  · by_cases he : e.point - 1 < 0
    · omega
    · rw [if_pos hd, if_neg he] at hsign
      exact absurd hsign (by decide)
  · by_cases he : e.point - 1 < 0
    · rw [if_neg hd, if_pos he] at hsign
      exact absurd hsign (by decide)
    · omega

theorem e_not_mem_significand : 'e' ∉ d.significand := by
  intro h
  rcases isDigit_or_point_of_mem_significand h with h | h
  · exact absurd h (by decide)
  · exact absurd h (by decide)

theorem e_not_mem_power : 'e' ∉ d.power := by
  unfold Decimal.power
  intro h
  rcases List.mem_cons.mp h with h | h
  · split at h
    · exact absurd h (by decide)
    · exact absurd h (by decide)
  · exact not_mem_digits rfl h

theorem isDigit_of_mem_decimals {k n : Nat} {c : Char} (h : c ∈ decimals k n) : c.isDigit := by
  have hdigit : ∀ m < 10, (hexDigit m).isDigit := by decide
  induction k generalizing n with
  | zero => exact absurd h List.not_mem_nil
  | succ k ih =>
    rcases List.mem_append.mp h with h | h
    · exact ih h
    · rw [List.mem_singleton.mp h]
      exact hdigit (n % 10) (by omega)

theorem isDigit_or_point_of_mem_fixedText {c : Char} (h : c ∈ d.fixedText) :
    c.isDigit ∨ c = '.' := by
  rcases List.mem_append.mp h with h | h
  · exact Or.inl (isDigit_of_mem_digits h)
  · rcases List.mem_cons.mp h with rfl | h
    · exact Or.inr rfl
    · exact Or.inl (isDigit_of_mem_decimals h)

theorem e_not_mem_fixedText : 'e' ∉ d.fixedText := by
  intro h
  rcases isDigit_or_point_of_mem_fixedText h with h | h
  · exact absurd h (by decide)
  · exact absurd h (by decide)

theorem fixedText_inj (hd : d.exponent < 0) (he : e.exponent < 0)
    (h : d.fixedText = e.fixedText) : d.mantissa = e.mantissa ∧ d.exponent = e.exponent := by
  have hwholes : '.' ∉ Nat.toDigits 10 (d.mantissa / 10 ^ d.exponent.natAbs) := not_mem_digits rfl
  have hplaces : '.' ∉ decimals d.exponent.natAbs (d.mantissa % 10 ^ d.exponent.natAbs) :=
    fun hmem => absurd (isDigit_of_mem_decimals hmem) (by decide)
  obtain ⟨hwhole, _, hrest⟩ := (List.append_cons_inj_of_notMem hwholes hplaces).mp h
  have hplaces : d.exponent.natAbs = e.exponent.natAbs := by
    have hlength := congrArg List.length hrest
    rwa [length_decimals, length_decimals] at hlength
  rw [hplaces] at hwhole hrest
  have hpos : 0 < 10 ^ e.exponent.natAbs := Nat.pow_pos (by decide)
  have hmod := decimals_inj (Nat.mod_lt _ hpos) (Nat.mod_lt _ hpos) hrest
  have hdiv := digits_inj hwhole
  refine ⟨?_, by omega⟩
  rw [← Nat.div_add_mod d.mantissa (10 ^ e.exponent.natAbs), hdiv, hmod, Nat.div_add_mod]

theorem unsigned_inj (h : d.unsigned = e.unsigned) :
    d.mantissa = e.mantissa ∧ d.exponent = e.exponent := by
  unfold Decimal.unsigned at h
  by_cases hd : d.Fixed
  · by_cases he : e.Fixed
    · rw [if_pos hd, if_pos he] at h
      exact fixedText_inj hd.1 he.1 h
    · rw [if_pos hd, if_neg he] at h
      have hmem : 'e' ∈ d.fixedText := by rw [h]; simp
      exact absurd hmem e_not_mem_fixedText
  · by_cases he : e.Fixed
    · rw [if_neg hd, if_pos he] at h
      have hmem : 'e' ∈ e.fixedText := by rw [← h]; simp
      exact absurd hmem e_not_mem_fixedText
    · rw [if_neg hd, if_neg he] at h
      obtain ⟨hsignificand, _, hpower⟩ :=
        (List.append_cons_inj_of_notMem e_not_mem_significand e_not_mem_power).mp h
      have hfilter := congrArg (List.filter (· ≠ '.')) hsignificand
      rw [filter_significand, filter_significand] at hfilter
      have hmantissa := digits_inj hfilter
      have hpoint := power_inj hpower
      unfold Decimal.point at hpoint
      rw [hmantissa] at hpoint
      exact ⟨hmantissa, by omega⟩

/-- A number in a text of its own: digits, a point, signs and the `e` of a power. -/
def numberChar (c : Char) : Bool := c.isDigit || c ∈ ['.', '-', '+', 'e']

theorem numberChar_of_isDigit {c : Char} (h : c.isDigit) : numberChar c = true := by
  rw [numberChar, h, Bool.true_or]

theorem numberChar_unsigned {c : Char} (h : c ∈ d.unsigned) : numberChar c = true := by
  unfold Decimal.unsigned at h
  split at h
  · rcases isDigit_or_point_of_mem_fixedText h with h | rfl
    · exact numberChar_of_isDigit h
    · decide
  · rcases List.mem_append.mp h with h | h
    · rcases isDigit_or_point_of_mem_significand h with h | rfl
      · exact numberChar_of_isDigit h
      · decide
    · rcases List.mem_cons.mp h with rfl | h
      · decide
      · rcases List.mem_cons.mp h with rfl | h
        · split <;> decide
        · exact numberChar_of_isDigit (isDigit_of_mem_digits h)

theorem numberChar_intText {n : Int} {c : Char} (h : c ∈ intText n) : numberChar c = true := by
  unfold intText at h
  split at h
  · rcases List.mem_cons.mp h with rfl | h
    · decide
    · exact numberChar_of_isDigit (isDigit_of_mem_digits h)
  · exact numberChar_of_isDigit (isDigit_of_mem_digits h)

theorem numberChar_text {a : Numeral} {c : Char} (h : c ∈ a.text) : numberChar c = true := by
  cases a with
  | int n => exact numberChar_intText h
  | decimal d =>
    have hd : c ∈ d.text := h
    unfold Decimal.text at hd
    split at hd
    · rcases List.mem_cons.mp hd with rfl | hd
      · decide
      · exact numberChar_unsigned hd
    · exact numberChar_unsigned hd

theorem head_unsigned : ∃ c cs, d.unsigned = c :: cs ∧ c.isDigit := by
  have hhead : ∀ n : Nat, ∃ c cs, Nat.toDigits 10 n = c :: cs ∧ c.isDigit := by
    intro n
    cases hn : Nat.toDigits 10 n with
    | nil => exact absurd hn Nat.toDigits_ne_nil
    | cons c cs => exact ⟨c, cs, rfl, isDigit_of_mem_digits (hn ▸ List.mem_cons_self)⟩
  unfold Decimal.unsigned
  split
  · obtain ⟨c, cs, heq, hc⟩ := hhead (d.mantissa / 10 ^ d.exponent.natAbs)
    simp only [Decimal.fixedText, heq, List.cons_append]
    exact ⟨c, _, rfl, hc⟩
  · obtain ⟨c, cs, heq, hc⟩ := hhead d.mantissa
    simp only [Decimal.significand, heq, List.take_succ_cons, List.cons_append]
    exact ⟨c, _, rfl, hc⟩

theorem mark_mem_unsigned : '.' ∈ d.unsigned ∨ 'e' ∈ d.unsigned := by
  unfold Decimal.unsigned
  split
  · exact Or.inl (List.mem_append_right _ List.mem_cons_self)
  · exact Or.inr (List.mem_append_right _ List.mem_cons_self)

theorem mark_mem_text : '.' ∈ d.text ∨ 'e' ∈ d.text := by
  unfold Decimal.text
  split
  · exact mark_mem_unsigned.imp (List.mem_cons_of_mem _) (List.mem_cons_of_mem _)
  · exact mark_mem_unsigned

theorem mark_not_mem_intText {n : Int} : '.' ∉ intText n ∧ 'e' ∉ intText n := by
  unfold intText
  split
  · refine ⟨fun h => ?_, fun h => ?_⟩
    · exact (List.mem_cons.mp h).elim (by decide) (not_mem_digits rfl)
    · exact (List.mem_cons.mp h).elim (by decide) (not_mem_digits rfl)
  · exact ⟨not_mem_digits rfl, not_mem_digits rfl⟩

theorem intText_inj {m n : Int} (h : intText m = intText n) : m = n := by
  have hsign : ∀ k : Nat, ∀ cs, '-' :: cs ≠ Nat.toDigits 10 k := by
    intro k cs heq
    exact not_mem_digits (c := '-') rfl (heq ▸ List.mem_cons_self)
  unfold intText at h
  by_cases hm : m < 0
  · by_cases hn : n < 0
    · rw [if_pos hm, if_pos hn] at h
      have habs := digits_inj (List.cons.inj h).2
      omega
    · rw [if_pos hm, if_neg hn] at h
      exact absurd h (hsign _ _)
  · by_cases hn : n < 0
    · rw [if_neg hm, if_pos hn] at h
      exact absurd h.symm (hsign _ _)
    · rw [if_neg hm, if_neg hn] at h
      have habs := digits_inj h
      omega

theorem decimalText_inj (h : d.text = e.text) : d = e := by
  have hsign : ∀ (f : Decimal) cs, '-' :: cs ≠ f.unsigned := by
    intro f cs heq
    obtain ⟨c, cs', hcs, hc⟩ := head_unsigned (d := f)
    rw [hcs] at heq
    rw [← (List.cons.inj heq).1] at hc
    exact absurd hc (by decide)
  have hboth : d.negative = e.negative ∧ d.unsigned = e.unsigned := by
    unfold Decimal.text at h
    cases hd : d.negative with
    | true =>
      cases he : e.negative with
      | true =>
        rw [hd, he] at h
        exact ⟨rfl, (List.cons.inj h).2⟩
      | false =>
        rw [hd, he] at h
        exact absurd h (hsign e _)
    | false =>
      cases he : e.negative with
      | true =>
        rw [hd, he] at h
        exact absurd h.symm (hsign d _)
      | false =>
        rw [hd, he] at h
        exact ⟨rfl, h⟩
  obtain ⟨hmantissa, hexponent⟩ := unsigned_inj hboth.2
  cases d
  cases e
  simp only at hboth hmantissa hexponent
  subst hmantissa hexponent
  rw [hboth.1]

/-- **A number is known by its text.** -/
theorem Numeral.text_inj {a b : Numeral} (h : a.text = b.text) : a = b := by
  cases a with
  | int m =>
    cases b with
    | int n => rw [intText_inj h]
    | decimal d =>
      have hmark : '.' ∈ intText m ∨ 'e' ∈ intText m := by
        rw [show intText m = d.text from h]
        exact mark_mem_text
      exact hmark.elim (absurd · mark_not_mem_intText.1) (absurd · mark_not_mem_intText.2)
  | decimal d =>
    cases b with
    | int n =>
      have hmark : '.' ∈ intText n ∨ 'e' ∈ intText n := by
        rw [← show d.text = intText n from h]
        exact mark_mem_text
      exact hmark.elim (absurd · mark_not_mem_intText.1) (absurd · mark_not_mem_intText.2)
    | decimal e => rw [decimalText_inj h]

theorem Numeral.text_ne_nil (a : Numeral) : a.text ≠ [] := by
  cases a with
  | int n =>
    show intText n ≠ []
    unfold intText
    split
    · exact List.cons_ne_nil _ _
    · exact Nat.toDigits_ne_nil
  | decimal d =>
    intro h
    have hmark := mark_mem_text (d := d)
    rw [show d.text = [] from h] at hmark
    exact hmark.elim List.not_mem_nil List.not_mem_nil

/-- What follows starts with nothing that stands in a number. -/
def Ends (t : List Char) : Prop := ∀ c ∈ t.head?, numberChar c = false

/-- **A number is known by its text** also where the text goes on. -/
theorem Numeral.text_append_inj {a b : Numeral} {t u : List Char} (ht : Ends t) (hu : Ends u)
    (h : a.text ++ t = b.text ++ u) : a = b ∧ t = u := by
  have htake : ∀ (a : Numeral) (t : List Char), Ends t →
      (a.text ++ t).takeWhile numberChar = a.text := by
    intro a t ht
    have hend : t.takeWhile numberChar = [] := by
      cases t with
      | nil => rfl
      | cons c t => rw [List.takeWhile_cons_of_neg (by rw [ht c rfl]; decide)]
    rw [List.takeWhile_append_of_pos fun c hc => numberChar_text hc, hend, List.append_nil]
  have htext := congrArg (List.takeWhile numberChar) h
  rw [htake a t ht, htake b u hu] at htext
  rw [htext] at h
  exact ⟨Numeral.text_inj htext, List.append_cancel_left h⟩

end Injective

end ContextLock.Js
