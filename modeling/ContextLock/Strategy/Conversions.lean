/-
  Subject:   Converted amounts against caps: what truncating gives away.

  A value stands for a rational, its digits moved by its decimals. A conversion that truncates
  gives less than the rational, so that a cap just above what it gives lets more through. It never
  helps the spender exactly where nothing is cut off.
-/
import ContextLock.Strategy.Units
import Mathlib.Algebra.Order.Field.Rat
import Mathlib.Data.Rat.Cast.Order
import Mathlib.Tactic.FieldSimp
import Mathlib.Tactic.Positivity

namespace ContextLock.Strategy

/-! ## 1. Division that truncates -/

/-- **Truncating gives no less** where it cuts nothing off, and for negative numbers. -/
theorem le_tdiv_mul_iff (x d : Int) : x ≤ x.tdiv d * d ↔ x < 0 ∨ d ∣ x := by
  have hsplit : d * x.tdiv d = x - x.tmod d := Int.mul_tdiv_self x d
  rw [Int.mul_comm, hsplit]
  constructor
  · intro h
    rcases lt_or_ge x 0 with hneg | hpos
    · exact .inl hneg
    · have hmod : 0 ≤ x.tmod d := Int.tmod_nonneg d hpos
      exact .inr (Int.dvd_of_tmod_eq_zero (by omega))
  · rintro (hneg | hdvd)
    · have hmod : (-x).tmod d = -x.tmod d := Int.neg_tmod x d
      have hpos : 0 ≤ (-x).tmod d := Int.tmod_nonneg d (by omega)
      omega
    · have hmod : x.tmod d = 0 := Int.tmod_eq_zero_of_dvd hdvd
      omega

/-! ## 2. Values and caps -/

/-- The rational that an integer with decimals stands for. -/
def atScale (value : Int) (decimals : Nat) : ℚ := value / 10 ^ decimals

def TypedValue.decimals (v : TypedValue) : Nat := v.unit.elim 0 (·.decimals)

def NeverHelps (converted : TypedValue) (exact : ℚ) : Prop :=
  ∀ cap : Int, converted.value ≤ cap → exact ≤ atScale cap converted.decimals

theorem pow_ten_pos (n : Nat) : (0 : ℚ) < 10 ^ n := by positivity

theorem neverHelps_iff {converted : TypedValue} {exact : ℚ} :
    NeverHelps converted exact ↔ exact ≤ atScale converted.value converted.decimals := by
  constructor
  · intro h
    exact h converted.value (le_refl _)
  · intro h cap hcap
    refine h.trans ?_
    unfold atScale
    gcongr

theorem atScale_le_atScale_iff {a b : Int} {m n : Nat} :
    atScale a m ≤ atScale b n ↔ a * 10 ^ n ≤ b * 10 ^ m := by
  unfold atScale
  rw [div_le_div_iff₀ (pow_ten_pos m) (pow_ten_pos n)]
  exact_mod_cast Iff.rfl

/-! ## 3. Conversions -/

@[simp] theorem decimals_rescale (value : Int) (u : ValueUnit) (decimals : Nat) :
    (rescale value u decimals).decimals = decimals := by
  unfold rescale
  rcases Nat.lt_trichotomy u.decimals decimals with hup | heq | hdown
  · rw [if_pos hup]
    rfl
  · rw [if_neg (by omega), if_neg (by omega)]
    exact heq
  · rw [if_neg (by omega), if_pos hdown]
    rfl

theorem value_rescale (value : Int) (u : ValueUnit) (decimals : Nat) :
    (rescale value u decimals).value
      = value.tdiv (10 ^ (u.decimals - decimals)) * 10 ^ (decimals - u.decimals) := by
  unfold rescale
  rcases Nat.lt_trichotomy u.decimals decimals with hup | heq | hdown
  · rw [if_pos hup, Nat.sub_eq_zero_of_le hup.le, pow_zero, Int.tdiv_one]
  · rw [if_neg (by omega), if_neg (by omega), heq, Nat.sub_self, pow_zero, Int.tdiv_one, Int.mul_one]
  · rw [if_neg (by omega), if_pos hdown, Nat.sub_eq_zero_of_le hdown.le, pow_zero, Int.mul_one]

/-- **A scaled value and a rational**: the value gives no less exactly where what is left of it, with
    the digits that were cut off as zeros, does. -/
theorem le_rescale_iff (x value : Int) (u : ValueUnit) (decimals n : Nat) :
    atScale x (n + u.decimals) ≤ atScale (rescale value u decimals).value decimals ↔
      x ≤ value.tdiv (10 ^ (u.decimals - decimals)) * 10 ^ (n + (u.decimals - decimals)) := by
  have hdigits : decimals - u.decimals + (n + u.decimals)
      = n + (u.decimals - decimals) + decimals := by omega
  have hpos : (0 : Int) < 10 ^ decimals := by positivity
  rw [atScale_le_atScale_iff, value_rescale, mul_assoc, ← pow_add, hdigits, pow_add, ← mul_assoc]
  exact mul_le_mul_iff_left₀ hpos

/-- `rescale` never helps where nothing is cut off, or for a negative value. -/
theorem rescale_neverHelps_iff (value : Int) (u : ValueUnit) (decimals : Nat) :
    NeverHelps (rescale value u decimals) (atScale value u.decimals) ↔
      value < 0 ∨ (10 : Int) ^ (u.decimals - decimals) ∣ value := by
  have hscaled := le_rescale_iff value value u decimals 0
  rw [Nat.zero_add, Nat.zero_add] at hscaled
  rw [neverHelps_iff, decimals_rescale, hscaled]
  exact le_tdiv_mul_iff value _

theorem rescale_rescale (value : Int) (u : ValueUnit) (more : Nat) :
    rescale (rescale value u (u.decimals + more)).value { u with decimals := u.decimals + more }
      u.decimals = ⟨value, some u⟩ := by
  have hpos : (10 : Int) ^ more ≠ 0 := by positivity
  rw [value_rescale, Nat.sub_eq_zero_of_le (Nat.le_add_right _ _), pow_zero, Int.tdiv_one,
    Nat.add_sub_cancel_left]
  unfold rescale
  rcases Nat.eq_zero_or_pos more with rfl | hmore
  · simp
  · have hdown : u.decimals < u.decimals + more := by omega
    dsimp only
    rw [if_neg (by omega), if_pos hdown, Nat.add_sub_cancel_left, Int.mul_tdiv_cancel value hpos]

def worth (amount price : Int) (a p : ValueUnit) : ℚ :=
  atScale amount a.decimals * atScale price p.decimals

theorem worth_eq (amount price : Int) (a p : ValueUnit) :
    worth amount price a p = atScale (amount * price) (a.decimals + p.decimals) := by
  unfold worth atScale
  rw [pow_add, Int.cast_mul, div_mul_div_comm]

theorem tdiv_tdiv_eq (x : Int) (a b : Nat) : (x.tdiv a).tdiv b = x.tdiv (a * b) := by
  have hnat : ∀ n : Nat, ((n : Int).tdiv a).tdiv b = (n : Int).tdiv (a * b) := by
    intro n
    rw [← Int.natCast_mul, ← Int.ofNat_tdiv, ← Int.ofNat_tdiv, ← Int.ofNat_tdiv,
      Nat.div_div_eq_div_mul]
  rcases Int.eq_nat_or_neg x with ⟨n, rfl | rfl⟩
  · exact hnat n
  · rw [Int.neg_tdiv, Int.neg_tdiv, Int.neg_tdiv, hnat n]

/-- `tokenToUsd` never helps where nothing of the product is cut off, or the product is negative. -/
theorem tokenToUsd_neverHelps_iff (amount price : Int) {a p : ValueUnit}
    (ha : a.kind = .TOKEN_AMOUNT) (hp : p.kind = .PRICE) (outDecimals : Nat) :
    (∀ usd, tokenToUsd ⟨amount, some a⟩ ⟨price, some p⟩ outDecimals = .ok usd →
        NeverHelps usd (worth amount price a p)) ↔
      amount * price < 0 ∨
        (10 : Int) ^ (a.decimals + (p.decimals - outDecimals)) ∣ amount * price := by
  have hok : tokenToUsd ⟨amount, some a⟩ ⟨price, some p⟩ outDecimals
      = .ok (rescale ((amount * price).tdiv (10 ^ a.decimals))
        ⟨.USD_VALUE, p.decimals, some (p.subject.getD "USD")⟩ outDecimals) := by
    unfold tokenToUsd
    simp [ha, hp]
  have htwice := tdiv_tdiv_eq (amount * price) (10 ^ a.decimals) (10 ^ (p.decimals - outDecimals))
  push_cast at htwice
  rw [hok]
  constructor
  · intro h
    have hhelps := h _ rfl
    rw [neverHelps_iff, decimals_rescale, worth_eq] at hhelps
    have hcut := (le_rescale_iff _ _ ⟨.USD_VALUE, p.decimals, some (p.subject.getD "USD")⟩ _ _).mp
      hhelps
    rw [htwice, ← pow_add] at hcut
    exact (le_tdiv_mul_iff _ _).mp hcut
  · intro h usd husd
    obtain rfl := Except.ok.inj husd
    rw [neverHelps_iff, decimals_rescale, worth_eq]
    refine (le_rescale_iff _ _ ⟨.USD_VALUE, p.decimals, some (p.subject.getD "USD")⟩ _ _).mpr ?_
    rw [htwice, ← pow_add]
    exact (le_tdiv_mul_iff _ _).mpr h

/-- **Conversions against caps**: `rescale` and `tokenToUsd` never help the spender exactly where
    nothing is cut off, or the amount is negative; scaling up and back gives the value again. -/
theorem conversions_never_help (value amount price : Int) (u a p : ValueUnit)
    (ha : a.kind = .TOKEN_AMOUNT) (hp : p.kind = .PRICE) (decimals outDecimals more : Nat) :
    (NeverHelps (rescale value u decimals) (atScale value u.decimals) ↔
        value < 0 ∨ (10 : Int) ^ (u.decimals - decimals) ∣ value) ∧
      ((∀ usd, tokenToUsd ⟨amount, some a⟩ ⟨price, some p⟩ outDecimals = .ok usd →
          NeverHelps usd (worth amount price a p)) ↔
        amount * price < 0 ∨
          (10 : Int) ^ (a.decimals + (p.decimals - outDecimals)) ∣ amount * price) ∧
      rescale (rescale value u (u.decimals + more)).value { u with decimals := u.decimals + more }
        u.decimals = ⟨value, some u⟩ :=
  ⟨rescale_neverHelps_iff value u decimals,
    tokenToUsd_neverHelps_iff amount price ha hp outDecimals, rescale_rescale value u more⟩

/-- One and a half ether at 2 500 dollars: nothing is cut off. -/
theorem conversions_never_help_ether :
    NeverHelps (rescale 375000000000 UNITS.usd 2) (atScale 375000000000 8) ∧
      (∀ usd, tokenToUsd ⟨1500000000000000000, some (UNITS.token "ETH" 18)⟩
          ⟨250000000000, some (UNITS.price "USD" 8)⟩ = .ok usd →
        NeverHelps usd (worth 1500000000000000000 250000000000 (UNITS.token "ETH" 18)
          (UNITS.price "USD" 8))) := by
  have hconversions := conversions_never_help 375000000000 1500000000000000000 250000000000 UNITS.usd
    (UNITS.token "ETH" 18) (UNITS.price "USD" 8) rfl rfl 2 8 0
  exact ⟨hconversions.1.mpr (.inr (by decide)), hconversions.2.1.mpr (.inr (by decide))⟩

/-- Ten cents and 0.99 of a cent are ten cents after scaling, which a cap of ten cents lets
    through. -/
theorem cents_cut_off :
    (rescale 10990000 UNITS.usd 2).value ≤ 10 ∧
      ¬ atScale 10990000 UNITS.usd.decimals ≤ atScale 10 (rescale 10990000 UNITS.usd 2).decimals := by
  refine ⟨by decide, ?_⟩
  rw [decimals_rescale, atScale_le_atScale_iff]
  decide

end ContextLock.Strategy
