/-
  Subject:   Runs of a partial step function over actions.

  A component takes one action at a time: `step s a` is the state after `a`, and `none` where
  the action is not possible in `s`. What an outside party decides (an answer, a delay, a
  crash) is part of the action, so a statement about all actions is one about every outside.
-/
import Mathlib.Logic.Relation

namespace ContextLock.Machine

variable {σ α : Type} {step : σ → α → Option σ}

/-- `s'` is one step after `s`. -/
def Step (step : σ → α → Option σ) (s s' : σ) : Prop := ∃ a, step s a = some s'

/-- `s'` is some number of steps after `s`. -/
def Reaches (step : σ → α → Option σ) : σ → σ → Prop := Relation.ReflTransGen (Step step)

/-- The steps of `step` whose action meets `guard` in the state it is taken in. -/
def guarded (step : σ → α → Option σ) (guard : σ → α → Prop) [∀ s a, Decidable (guard s a)]
    (s : σ) (a : α) : Option σ :=
  if guard s a then step s a else none

theorem guarded_eq_some {guard : σ → α → Prop} [∀ s a, Decidable (guard s a)] {s s' : σ} {a : α} :
    guarded step guard s a = some s' ↔ guard s a ∧ step s a = some s' := by
  unfold guarded
  by_cases h : guard s a <;> simp [h]

theorem Reaches.refl (s : σ) : Reaches step s s := Relation.ReflTransGen.refl

theorem Reaches.trans {s t u : σ} (h : Reaches step s t) (h' : Reaches step t u) :
    Reaches step s u :=
  Relation.ReflTransGen.trans h h'

theorem Reaches.head {s t u : σ} {a : α} (h : step s a = some t) (h' : Reaches step t u) :
    Reaches step s u :=
  Relation.ReflTransGen.head ⟨a, h⟩ h'

/-- **Invariants.** What every step preserves holds at the end of a run if it held at its
    start. -/
theorem Reaches.invariant {P : σ → Prop} (hstep : ∀ s a s', P s → step s a = some s' → P s')
    {s s' : σ} (h : Reaches step s s') (hs : P s) : P s' := by
  induction h with
  | refl => exact hs
  | tail _ hlast ih =>
    obtain ⟨a, ha⟩ := hlast
    exact hstep _ a _ ih ha

/-- The run of a list of actions. -/
def execute (step : σ → α → Option σ) : σ → List α → Option σ
  | s, [] => some s
  | s, a :: as => (step s a).bind fun s' => execute step s' as

theorem execute_append {s : σ} {as bs : List α} :
    execute step s (as ++ bs) = (execute step s as).bind fun s' => execute step s' bs := by
  induction as generalizing s with
  | nil => rfl
  | cons a as ih =>
    simp only [List.cons_append, execute, Option.bind_assoc]
    exact Option.bind_congr fun s' _ => ih

theorem reaches_of_execute {s s' : σ} {as : List α} (h : execute step s as = some s') :
    Reaches step s s' := by
  induction as generalizing s with
  | nil =>
    cases h
    exact Reaches.refl _
  | cons a as ih =>
    simp only [execute, Option.bind_eq_some_iff] at h
    obtain ⟨t, ht, hrest⟩ := h
    exact Reaches.head ht (ih hrest)

theorem reaches_of_observed {τ : Type} (f : σ → τ) (as : List α) {s : σ} {t : τ}
    (h : (execute step s as).map f = some t) : ∃ s', Reaches step s s' ∧ f s' = t := by
  obtain ⟨s', hs', ht⟩ := Option.map_eq_some_iff.mp h
  exact ⟨s', reaches_of_execute hs', ht⟩

/-- **Runs that agree.** Under an invariant, a run of one step function is the run of another
    that can do the same. -/
theorem execute_of_agrees {step step' : σ → α → Option σ} {I : σ → Prop} {A : α → Prop}
    (hagree : ∀ s a s', I s → A a → step' s a = some s' → step s a = some s' ∧ I s')
    {s s' : σ} {as : List α} (hs : I s) (has : ∀ a ∈ as, A a)
    (h : execute step' s as = some s') : execute step s as = some s' := by
  induction as generalizing s with
  | nil => exact h
  | cons a as ih =>
    simp only [execute, Option.bind_eq_some_iff] at h ⊢
    obtain ⟨t, ht, hrest⟩ := h
    obtain ⟨hstep, hI⟩ := hagree s a t hs (has a List.mem_cons_self) ht
    exact ⟨t, hstep, ih hI (fun b hb => has b (List.mem_cons_of_mem a hb)) hrest⟩

/-! ## Parties of a run -/

section Parties

variable {l : List α} {a x : α} {i k : Nat}

theorem cases_of_getElem?_set (h : (l.set i a)[k]? = some x) :
    i = k ∧ x = a ∨ i ≠ k ∧ l[k]? = some x := by
  by_cases hik : i = k
  · rw [List.getElem?_set, if_pos hik] at h
    split at h
    · exact .inl ⟨hik, (Option.some.inj h).symm⟩
    · cases h
  · rw [List.getElem?_set_ne hik] at h
    exact .inr ⟨hik, h⟩

theorem forall_mem_set {P : α → Prop} (h : ∀ y ∈ l, P y) (ha : P a) : ∀ y ∈ l.set i a, P y := by
  intro y hy
  rcases List.mem_or_eq_of_mem_set hy with hold | rfl
  · exact h y hold
  · exact ha

theorem cases_of_getElem?_concat (h : (l ++ [a])[k]? = some x) :
    l[k]? = some x ∨ k = l.length ∧ x = a := by
  rcases Nat.lt_or_ge k l.length with hlt | hge
  · rw [List.getElem?_append_left hlt] at h
    exact .inl h
  · have hbound := (List.getElem?_eq_some_iff.mp h).1
    rw [List.length_append, List.length_singleton] at hbound
    rw [List.getElem?_append_right hge] at h
    exact .inr ⟨by omega, List.mem_singleton.mp (List.mem_of_getElem? h)⟩

theorem getElem?_concat_of_some (h : l[k]? = some x) : (l ++ [a])[k]? = some x :=
  (List.getElem?_append_left (List.getElem?_eq_some_iff.mp h).1).trans h

end Parties

end ContextLock.Machine
