/-
  Subject:   Sums of amounts over a list of entries, selected by a condition or a time window.
-/
import Mathlib.Algebra.BigOperators.Group.Finset.Basic
import Mathlib.Algebra.BigOperators.Group.Finset.Piecewise
import Mathlib.Algebra.Order.BigOperators.Group.Finset
import Mathlib.Data.Int.Order.Basic
import Mathlib.Tactic.Ring
import Mathlib.Tactic.Linarith

namespace ContextLock.Accounting

variable {α : Type} {amount : α → Int} {p q r : α → Prop} [DecidablePred p] [DecidablePred q]
  [DecidablePred r] {l : List α}

/-! ## 1. Sums over selected entries -/

/-- The sum of the amounts of the entries that meet `p`. -/
def sumWhere (amount : α → Int) (p : α → Prop) [DecidablePred p] (l : List α) : Int :=
  (l.map fun e => if p e then amount e else 0).sum

@[simp] theorem sumWhere_nil : sumWhere amount p [] = 0 := rfl

@[simp] theorem sumWhere_cons (e : α) :
    sumWhere amount p (e :: l) = (if p e then amount e else 0) + sumWhere amount p l := by
  simp [sumWhere]

theorem sumWhere_concat (e : α) :
    sumWhere amount p (l ++ [e]) = sumWhere amount p l + (if p e then amount e else 0) := by
  simp [sumWhere]

theorem sumWhere_eq_zero (h : ∀ e ∈ l, ¬ p e) : sumWhere amount p l = 0 := by
  induction l with
  | nil => rfl
  | cons e l ih =>
    have he := h e (List.mem_cons_self ..)
    rw [sumWhere_cons, if_neg he, ih fun e' he' => h e' (List.mem_cons_of_mem _ he'), add_zero]

theorem sumWhere_eq_length (h : ∀ e ∈ l, p e ∧ amount e = 1) : sumWhere amount p l = l.length := by
  induction l with
  | nil => rfl
  | cons e l ih =>
    obtain ⟨hp, hone⟩ := h e (List.mem_cons_self ..)
    rw [sumWhere_cons, if_pos hp, hone, ih fun e' he' => h e' (List.mem_cons_of_mem _ he'),
      List.length_cons]
    push_cast
    omega

theorem sumWhere_nonpos (h : ∀ e ∈ l, p e → amount e ≤ 0) : sumWhere amount p l ≤ 0 := by
  induction l with
  | nil => exact le_rfl
  | cons e l ih =>
    have hrest := ih fun e' he' => h e' (List.mem_cons_of_mem _ he')
    rw [sumWhere_cons]
    by_cases hp : p e
    · have he := h e (List.mem_cons_self ..) hp
      rw [if_pos hp]
      omega
    · rw [if_neg hp]
      omega

theorem sumWhere_congr (h : ∀ e ∈ l, p e ↔ q e) : sumWhere amount p l = sumWhere amount q l := by
  induction l with
  | nil => rfl
  | cons e l ih =>
    have he := h e (List.mem_cons_self ..)
    rw [sumWhere_cons, sumWhere_cons, ih fun e' he' => h e' (List.mem_cons_of_mem _ he')]
    by_cases hp : p e
    · rw [if_pos hp, if_pos (he.mp hp)]
    · rw [if_neg hp, if_neg fun hq => hp (he.mpr hq)]

theorem sumWhere_map_le {f : α → α}
    (h : ∀ e ∈ l, (if p (f e) then amount (f e) else 0) ≤ if q e then amount e else 0) :
    sumWhere amount p (l.map f) ≤ sumWhere amount q l := by
  induction l with
  | nil => exact le_rfl
  | cons e l ih =>
    rw [List.map_cons, sumWhere_cons, sumWhere_cons]
    exact add_le_add (h e (List.mem_cons_self ..))
      (ih fun e' he' => h e' (List.mem_cons_of_mem _ he'))

/-- **Selecting fewer entries lowers the sum.** -/
theorem sumWhere_mono (hnonneg : ∀ e ∈ l, 0 ≤ amount e) (h : ∀ e ∈ l, p e → q e) :
    sumWhere amount p l ≤ sumWhere amount q l := by
  have hmap : sumWhere amount p (l.map id) ≤ sumWhere amount q l := by
    refine sumWhere_map_le fun e he => ?_
    by_cases hp : p e
    · simp [hp, h e he hp]
    · by_cases hq : q e
      · simpa [hp, hq] using hnonneg e he
      · simp [hp, hq]
  rwa [List.map_id] at hmap

theorem sumWhere_le_add (hnonneg : ∀ e ∈ l, 0 ≤ amount e) (h : ∀ e ∈ l, p e → q e ∨ r e) :
    sumWhere amount p l ≤ sumWhere amount q l + sumWhere amount r l := by
  induction l with
  | nil => exact le_rfl
  | cons e l ih =>
    have hih := ih (fun e' he' => hnonneg e' (List.mem_cons_of_mem _ he'))
      fun e' he' => h e' (List.mem_cons_of_mem _ he')
    have he := hnonneg e (List.mem_cons_self ..)
    have hpqr := h e (List.mem_cons_self ..)
    rw [sumWhere_cons, sumWhere_cons, sumWhere_cons]
    by_cases hp : p e
    · rcases hpqr hp with hq | hr
      · by_cases hr : r e <;> simp only [hp, hq, hr, if_true, if_false] <;> omega
      · by_cases hq : q e <;> simp only [hp, hq, hr, if_true, if_false] <;> omega
    · by_cases hq : q e <;> by_cases hr : r e <;>
        simp only [hp, hq, hr, if_true, if_false] <;> omega

/-- **A checked entry.** If, where the new entry is selected, everything selected was counted by
    the check the entry passed, the sum stays within the bound. -/
theorem sumWhere_concat_le {new : α} {bound : Int} (hnonneg : ∀ e ∈ l, 0 ≤ amount e)
    (hold : sumWhere amount p l ≤ bound) (hseen : p new → ∀ e ∈ l, p e → q e)
    (hcheck : sumWhere amount q l + amount new ≤ bound) :
    sumWhere amount p (l ++ [new]) ≤ bound := by
  rw [sumWhere_concat]
  by_cases hp : p new
  · have hle : sumWhere amount p l ≤ sumWhere amount q l := sumWhere_mono hnonneg (hseen hp)
    rw [if_pos hp]
    omega
  · rw [if_neg hp, add_zero]
    exact hold

theorem sumWhere_map_filter {β : Type} {f : β → α} {s : β → Prop} [DecidablePred s] (l : List β) :
    sumWhere amount p ((l.filter (fun e => s e)).map f) =
      sumWhere (fun e => amount (f e)) (fun e => s e ∧ p (f e)) l := by
  induction l with
  | nil => rfl
  | cons e l ih =>
    by_cases hs : s e
    · simp [hs, ih]
    · simp [hs, ih]

theorem sumWhere_amount_congr {amount' : α → Int} (h : ∀ e ∈ l, p e → amount e = amount' e) :
    sumWhere amount p l = sumWhere amount' p l := by
  induction l with
  | nil => rfl
  | cons e l ih =>
    rw [sumWhere_cons, sumWhere_cons, ih fun e' he' => h e' (List.mem_cons_of_mem _ he')]
    by_cases hp : p e
    · rw [if_pos hp, if_pos hp, h e (List.mem_cons_self ..) hp]
    · rw [if_neg hp, if_neg hp]

/-- **One entry rewritten**, found by its key. -/
theorem sumWhere_map_key {κ : Type} [DecidableEq κ] {key : α → κ} {f : α → α} {e : α}
    (hkeys : (l.map key).Nodup) (he : e ∈ l) :
    sumWhere amount p (l.map fun x => if key x = key e then f x else x) =
      sumWhere amount p l - (if p e then amount e else 0) + if p (f e) then amount (f e) else 0 := by
  induction l with
  | nil => cases he
  | cons x l ih =>
    rw [List.map_cons, List.nodup_cons] at hkeys
    rw [List.map_cons, sumWhere_cons, sumWhere_cons]
    rcases List.mem_cons.mp he with rfl | hin
    · -- the others have other keys
      have hrest : l.map (fun x => if key x = key e then f x else x) = l := by
        refine (List.map_congr_left fun y hy => ?_).trans (List.map_id l)
        have hne : key y ≠ key e := fun heq => hkeys.1 (heq ▸ List.mem_map_of_mem hy)
        exact if_neg hne
      rw [hrest, if_pos rfl]
      omega
    · have hne : key x ≠ key e := fun heq => hkeys.1 (heq ▸ List.mem_map_of_mem hin)
      rw [if_neg hne, ih hkeys.2 hin]
      omega

/-! ## 2. Sums by key -/

/-- **A sum splits by key**, if every selected entry's key is one of `keys`. -/
theorem sumWhere_by_key {κ : Type} [DecidableEq κ] {key : α → κ} {keys : Finset κ}
    (h : ∀ e ∈ l, p e → key e ∈ keys) :
    sumWhere amount p l = ∑ k ∈ keys, sumWhere amount (fun e => p e ∧ key e = k) l := by
  induction l with
  | nil => simp
  | cons e l ih =>
    have he := h e (List.mem_cons_self ..)
    simp only [sumWhere_cons, Finset.sum_add_distrib]
    rw [ih fun e' he' => h e' (List.mem_cons_of_mem _ he')]
    congr 1
    by_cases hp : p e
    · simp only [hp, true_and, if_true]
      rw [Finset.sum_ite_eq, if_pos (he hp)]
    · simp [hp]

/-! ## 3. Windows -/

/-- The entries of `q` dated after `a` and not after `b`. -/
def Within (time : α → Int) (q : α → Prop) (a b : Int) (e : α) : Prop :=
  q e ∧ a < time e ∧ time e ≤ b

instance (time : α → Int) (a b : Int) : DecidablePred (Within time q a b) :=
  fun _ => inferInstanceAs (Decidable (_ ∧ _ ∧ _))

/-- **Windows add up.** If no window of length `w` sums to more than `bound`, no window of
    length `k * w` sums to more than `k * bound`. -/
theorem window_cover {time : α → Int} {w bound : Int} (hnonneg : ∀ e ∈ l, 0 ≤ amount e)
    (h : ∀ a, sumWhere amount (Within time q a (a + w)) l ≤ bound) (k : Nat) (b : Int) :
    sumWhere amount (Within time q (b - k * w) b) l ≤ k * bound := by
  induction k with
  | zero =>
    refine le_of_eq ((sumWhere_eq_zero fun e _ he => ?_).trans (by simp))
    obtain ⟨_, hlt, hle⟩ := he
    simp only [Nat.cast_zero, zero_mul, sub_zero] at hlt
    omega
  | succ k ih =>
    have hsplit : sumWhere amount (Within time q (b - (k + 1 : Nat) * w) b) l
        ≤ sumWhere amount (Within time q (b - (k + 1 : Nat) * w) (b - (k + 1 : Nat) * w + w)) l
          + sumWhere amount (Within time q (b - k * w) b) l := by
      refine sumWhere_le_add hnonneg fun e _ he => ?_
      obtain ⟨hq, hlt, hle⟩ := he
      have hend : b - (k + 1 : Nat) * w + w = b - k * w := by
        push_cast
        ring
      by_cases hcut : time e ≤ b - k * w
      · exact .inl ⟨hq, hlt, hend.symm ▸ hcut⟩
      · exact .inr ⟨hq, not_le.mp hcut, hle⟩
    have hlast := h (b - (k + 1 : Nat) * w)
    calc sumWhere amount (Within time q (b - (k + 1 : Nat) * w) b) l
        ≤ _ := hsplit
      _ ≤ bound + k * bound := add_le_add hlast ih
      _ = (k + 1 : Nat) * bound := by
        push_cast
        ring

end ContextLock.Accounting
