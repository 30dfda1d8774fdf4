/-
  Subject:   Rounding to a double keeps the order of the naturals.

  A natural is rounded to the nearest multiple of the unit of its own size. Within one size the
  nearest multiple grows with the number; between two sizes lies a power of two that both
  roundings leave on its side.
-/
import ContextLock.Js.Value

namespace ContextLock.Js

/-! ## 1. Rounding to a unit -/

/-- The multiple of `2 ^ e` nearest to `n`, ties to the even one. -/
def nearest (e n : Nat) : Nat :=
  if 2 ^ e < 2 * (n % 2 ^ e) ∨ (2 ^ e = 2 * (n % 2 ^ e) ∧ n / 2 ^ e % 2 = 1) then
    (n / 2 ^ e + 1) * 2 ^ e
  else n / 2 ^ e * 2 ^ e

theorem doubleOf_eq_nearest (n : Nat) : doubleOf n = nearest (n.log2 - 52) n := by
  unfold doubleOf nearest
  dsimp only
  by_cases he : n.log2 - 52 = 0
  · rw [if_pos he, he]
    simp [Nat.mod_one]
  · rw [if_neg he]

theorem le_nearest (e n : Nat) : n / 2 ^ e * 2 ^ e ≤ nearest e n := by
  unfold nearest
  split
  · exact Nat.mul_le_mul_right _ (Nat.le_succ _)
  · exact le_rfl

theorem nearest_le (e n : Nat) : nearest e n ≤ (n / 2 ^ e + 1) * 2 ^ e := by
  unfold nearest
  split
  · exact le_rfl
  · exact Nat.mul_le_mul_right _ (Nat.le_succ _)

theorem nearest_mono {e m n : Nat} (h : m ≤ n) : nearest e m ≤ nearest e n := by
  obtain hlt | heq := (Nat.div_le_div_right (c := 2 ^ e) h).lt_or_eq
  · exact (nearest_le e m).trans ((Nat.mul_le_mul_right _ hlt).trans (le_nearest e n))
  · have hm := Nat.div_add_mod m (2 ^ e)
    have hn := Nat.div_add_mod n (2 ^ e)
    rw [heq] at hm
    have hrest : m % 2 ^ e ≤ n % 2 ^ e := by omega
    unfold nearest
    rw [heq]
    split
    · rename_i hup
      rw [if_pos (by omega)]
    · split
      · exact Nat.mul_le_mul_right _ (Nat.le_succ _)
      · exact le_rfl

/-! ## 2. Rounding to a double -/

theorem doubleOf_le_pow {n k : Nat} (h : n < 2 ^ k) : doubleOf n ≤ 2 ^ k := by
  rw [doubleOf_eq_nearest]
  generalize he : n.log2 - 52 = e
  have hek : e ≤ k := by
    obtain rfl | hn := Nat.eq_zero_or_pos n
    · simp at he
      omega
    · have := (Nat.log2_lt hn.ne').mpr h
      omega
  have hdiv : n / 2 ^ e < 2 ^ (k - e) := by
    refine Nat.div_lt_of_lt_mul ?_
    rwa [← Nat.pow_add, Nat.add_sub_cancel' hek]
  calc nearest e n ≤ (n / 2 ^ e + 1) * 2 ^ e := nearest_le e n
    _ ≤ 2 ^ (k - e) * 2 ^ e := Nat.mul_le_mul_right _ hdiv
    _ = 2 ^ k := by rw [← Nat.pow_add, Nat.sub_add_cancel hek]

theorem pow_le_doubleOf {n : Nat} (hn : n ≠ 0) : 2 ^ n.log2 ≤ doubleOf n := by
  rw [doubleOf_eq_nearest]
  generalize he : n.log2 - 52 = e
  have hek : e ≤ n.log2 := by omega
  have hdiv : 2 ^ (n.log2 - e) ≤ n / 2 ^ e := by
    rw [Nat.le_div_iff_mul_le (Nat.two_pow_pos e), ← Nat.pow_add, Nat.sub_add_cancel hek]
    exact Nat.log2_self_le hn
  calc 2 ^ n.log2 = 2 ^ (n.log2 - e) * 2 ^ e := by rw [← Nat.pow_add, Nat.sub_add_cancel hek]
    _ ≤ n / 2 ^ e * 2 ^ e := Nat.mul_le_mul_right _ hdiv
    _ ≤ nearest e n := le_nearest e n

/-- **Rounding keeps the order.** -/
theorem doubleOf_mono {m n : Nat} (h : m ≤ n) : doubleOf m ≤ doubleOf n := by
  obtain rfl | hm := Nat.eq_zero_or_pos m
  · have hzero : doubleOf 0 = 0 := by decide
    omega
  have hn : n ≠ 0 := by omega
  have hlog : m.log2 ≤ n.log2 := (Nat.le_log2 hn).mpr ((Nat.log2_self_le hm.ne').trans h)
  obtain hlt | heq := hlog.lt_or_eq
  · calc doubleOf m ≤ 2 ^ (m.log2 + 1) := doubleOf_le_pow Nat.lt_log2_self
      _ ≤ 2 ^ n.log2 := Nat.pow_le_pow_right (by decide) hlt
      _ ≤ doubleOf n := pow_le_doubleOf hn
  · rw [doubleOf_eq_nearest, doubleOf_eq_nearest, heq]
    exact nearest_mono h

/-! ## 3. Numbers of naturals -/

/-- The order of numbers, `NaN` aside. -/
def Num.le : Num → Num → Bool
  | .int a, .int b => a ≤ b
  | .int _, .inf negative => !negative
  | .inf negative, .int _ => negative
  | .inf a, .inf b => a || !b
  | .nan, _ => false
  | _, .nan => false

/-- **The number of a larger natural is no smaller.** -/
theorem ofBigInt_le {m n : Nat} (h : m ≤ n) : (Num.ofBigInt m).le (Num.ofBigInt n) = true := by
  have hd : doubleOf m ≤ doubleOf n := doubleOf_mono h
  have hsign : ∀ k : Nat, ((k : Int).sign * (doubleOf k : Int)) = doubleOf k := by
    intro k
    obtain rfl | hk := Nat.eq_zero_or_pos k
    · decide
    · rw [Int.sign_eq_one_of_pos (by omega), one_mul]
  have hneg : ∀ k : Nat, decide ((k : Int) < 0) = false := by simp
  unfold Num.ofBigInt
  simp only [Int.natAbs_natCast, hsign, hneg]
  split
  · rename_i hm
    have hlog : (doubleOf m).log2 ≤ (doubleOf n).log2 := by
      have hne : doubleOf m ≠ 0 := by
        rintro hzero
        rw [hzero] at hm
        revert hm
        decide
      exact (Nat.le_log2 (by omega)).mpr ((Nat.log2_self_le hne).trans hd)
    rw [if_pos (by omega)]
    rfl
  · split
    · rfl
    · simpa [Num.le] using hd

theorem ofBigInt_le_int {m n : Int} (hm : 0 ≤ m) (h : m ≤ n) :
    (Num.ofBigInt m).le (Num.ofBigInt n) = true := by
  obtain ⟨a, rfl⟩ := Int.eq_ofNat_of_zero_le hm
  obtain ⟨b, rfl⟩ := Int.eq_ofNat_of_zero_le (hm.trans h)
  exact ofBigInt_le (by omega)

end ContextLock.Js
