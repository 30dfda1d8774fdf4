/-
  Subject:   References between finitely many things: what can be resolved, and what a cycle keeps
             from it.

  A thing is resolved after all it refers to; one that is bad by itself is never. What is left over
  leads to a bad thing or to a cycle.
-/
import Mathlib.Data.Fintype.Card
import Mathlib.Data.Set.Finite.List
import Mathlib.Logic.Relation

namespace ContextLock.Machine

open Relation

variable {α : Type} {R : α → α → Prop} {bad : α → Prop}

/-! ## 1. What leads where -/

def Leads (R : α → α → Prop) (t : α) (P : α → Prop) : Prop := ∃ u, ReflTransGen R t u ∧ P u

def OnCycle (R : α → α → Prop) (t : α) : Prop := TransGen R t t

/-! ## 2. What is resolved -/

/-- A thing that is not bad is resolved where all it refers to is. -/
inductive Resolved (R : α → α → Prop) (bad : α → Prop) : α → Prop where
  | intro {t : α} (good : ¬ bad t) (refs : ∀ u, R t u → Resolved R bad u) : Resolved R bad t

theorem Resolved.good {t : α} (h : Resolved R bad t) : ¬ bad t := by
  cases h with
  | intro good _ => exact good

theorem Resolved.refs {t u : α} (h : Resolved R bad t) (htu : R t u) : Resolved R bad u := by
  cases h with
  | intro _ refs => exact refs u htu

theorem Resolved.reached {t u : α} (h : Resolved R bad t) (htu : ReflTransGen R t u) :
    Resolved R bad u := by
  induction htu with
  | refl => exact h
  | tail _ hstep ih => exact ih.refs hstep

theorem Resolved.not_onCycle {t : α} (h : Resolved R bad t) : ¬ OnCycle R t := by
  induction h with
  | intro _ _ ih =>
    intro hcycle
    obtain ⟨u, htu, hut⟩ := TransGen.head'_iff.mp hcycle
    exact ih u htu (TransGen.tail' hut htu)

/-- **What leads to nothing bad and to no cycle is resolved**, among finitely many things. -/
theorem resolved_of_no_cycle {nodes : List α} (hnodes : ∀ t u, R t u → u ∈ nodes) {t : α}
    (hbad : ¬ Leads R t bad) (hcycle : ¬ Leads R t (OnCycle R)) : Resolved R bad t := by
  have hfinite : Finite {u // ReflTransGen R t u} := by
    refine Set.Finite.to_subtype (Set.Finite.subset (List.finite_toSet (t :: nodes)) fun u hu => ?_)
    rcases ReflTransGen.cases_tail hu with rfl | ⟨v, -, hvu⟩
    · exact List.mem_cons_self
    · exact List.mem_cons_of_mem _ (hnodes v u hvu)
  let below : {u // ReflTransGen R t u} → {u // ReflTransGen R t u} → Prop :=
    fun u v => TransGen R v.1 u.1
  have htrans : IsTrans _ below := ⟨fun _ _ _ huv hvw => hvw.trans huv⟩
  have hirrefl : Std.Irrefl below := ⟨fun u hu => hcycle ⟨u.1, u.2, hu⟩⟩
  have hwf : WellFounded below := Finite.wellFounded_of_trans_of_irrefl below
  have hall : ∀ u : {u // ReflTransGen R t u}, Resolved R bad u.1 := by
    intro u
    induction u using hwf.induction with
    | _ u ih =>
      refine .intro (fun hu => hbad ⟨u.1, u.2, hu⟩) fun v huv => ?_
      exact ih ⟨v, u.2.tail huv⟩ (.single huv)
  exact hall ⟨t, .refl⟩

/-- **What is not resolved** leads to a bad thing or to a cycle. -/
theorem not_resolved_iff {nodes : List α} (hnodes : ∀ t u, R t u → u ∈ nodes) {t : α} :
    ¬ Resolved R bad t ↔ Leads R t bad ∨ Leads R t (OnCycle R) := by
  constructor
  · intro h
    by_contra hnot
    rw [not_or] at hnot
    exact h (resolved_of_no_cycle hnodes hnot.1 hnot.2)
  · rintro (⟨u, htu, hu⟩ | ⟨u, htu, hu⟩) h
    · exact (h.reached htu).good hu
    · exact (h.reached htu).not_onCycle hu

/-! ## 3. One step and all steps -/

section Closure

variable {x : α} {D : α → Prop}

/-- What is reached from `x` stays inside a set that no step leaves. -/
theorem reached_of_closed (hclosed : ∀ b c, b = x ∨ D b → R b c → c = x ∨ D c) {y : α}
    (h : ReflTransGen R x y) : y = x ∨ D y := by
  induction h with
  | refl => exact .inl rfl
  | tail _ hstep ih => exact hclosed _ _ ih hstep

/-- **A set of things one step from `x` holds all that is reached** exactly where no step leaves
    it. -/
theorem closure_iff_closed (hstep : ∀ y, D y → y ≠ x ∧ R x y) :
    (∀ y, D y ↔ y ≠ x ∧ ReflTransGen R x y) ↔ ∀ b c, b = x ∨ D b → R b c → c = x ∨ D c := by
  constructor
  · intro h b c hb hbc
    have hreached : ReflTransGen R x b := by
      rcases hb with rfl | hb
      · exact .refl
      · exact .single (hstep b hb).2
    by_cases hc : c = x
    · exact .inl hc
    · exact .inr ((h c).mpr ⟨hc, hreached.tail hbc⟩)
  · intro hclosed y
    constructor
    · intro hy
      exact ⟨(hstep y hy).1, .single (hstep y hy).2⟩
    · rintro ⟨hne, hreached⟩
      exact (reached_of_closed hclosed hreached).resolve_left hne

end Closure

end ContextLock.Machine
