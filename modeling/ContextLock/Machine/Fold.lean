/-
  Subject:   A loop over a list whose step may fail.
-/
import Mathlib.Data.List.Basic

namespace ContextLock.Machine

variable {σ α : Type} {f : σ → α → Option σ}

theorem fold_cons (a : α) (as : List α) (s : σ) :
    (a :: as).foldlM f s = (f s a).bind (as.foldlM f) := by
  rw [List.foldlM_cons]
  rfl

/-- **What every step keeps, the loop keeps.** -/
theorem fold_keeps {P : σ → Prop} {as : List α} {s s' : σ}
    (step : ∀ a ∈ as, ∀ s s', P s → f s a = some s' → P s') (h : as.foldlM f s = some s')
    (hs : P s) : P s' := by
  induction as generalizing s with
  | nil =>
    obtain rfl : s = s' := by simpa using h
    exact hs
  | cons a as ih =>
    rw [fold_cons] at h
    obtain ⟨t, ht, hrest⟩ := Option.bind_eq_some_iff.mp h
    exact ih (fun b hb => step b (List.mem_cons_of_mem a hb)) hrest
      (step a List.mem_cons_self s t hs ht)

/-- **Each item has its step** in a loop that ends. -/
theorem fold_at {as : List α} {s s' : σ} (h : as.foldlM f s = some s') {a : α} (ha : a ∈ as) :
    ∃ before after t u, as = before ++ a :: after ∧ before.foldlM f s = some t ∧
      f t a = some u ∧ after.foldlM f u = some s' := by
  induction as generalizing s with
  | nil => cases ha
  | cons b as ih =>
    rw [fold_cons] at h
    obtain ⟨t, ht, hrest⟩ := Option.bind_eq_some_iff.mp h
    rcases List.mem_cons.mp ha with rfl | hmem
    · exact ⟨[], as, s, t, rfl, rfl, ht, hrest⟩
    · obtain ⟨before, after, u, v, rfl, hbefore, hstep, hafter⟩ := ih hrest hmem
      refine ⟨b :: before, after, u, v, rfl, ?_, hstep, hafter⟩
      rw [fold_cons, ht, Option.bind_some, hbefore]

end ContextLock.Machine
