/-
  Subject:   The first value of a list that is sorted by a comparison.

  A stable sort puts first a value that comes before all others, and of several such values the one
  that stood first. So what is put first depends on the order of the list where they differ. The
  comparison need only order the values of the list.
-/
import Mathlib.Data.List.Sort

namespace ContextLock.Js

section Front

variable {α β : Type} (le : α → α → Bool)

/-- The first value of the sorted list. -/
def front (as : List α) : Option α := (as.insertionSort fun a b => le a b = true).head?

/-- A value of the list that comes before all. -/
structure Least (as : List α) (a : α) : Prop where
  mem : a ∈ as
  le : ∀ b ∈ as, le a b = true

structure Orders (as : List α) : Prop where
  total : ∀ a ∈ as, ∀ b ∈ as, le a b = true ∨ le b a = true
  trans : ∀ a ∈ as, ∀ b ∈ as, ∀ c ∈ as, le a b = true → le b c = true → le a c = true

variable {le} {as bs : List α} {a b : α}

theorem Least.of_perm (h : Least le as a) (hperm : bs.Perm as) : Least le bs a :=
  ⟨hperm.mem_iff.mpr h.mem, fun b hb => h.le b (hperm.mem_iff.mp hb)⟩

theorem Orders.of_perm (h : Orders le as) (hperm : bs.Perm as) : Orders le bs where
  total a ha b hb := h.total a (hperm.mem_iff.mp ha) b (hperm.mem_iff.mp hb)
  trans a ha b hb c hc := h.trans a (hperm.mem_iff.mp ha) b (hperm.mem_iff.mp hb) c
    (hperm.mem_iff.mp hc)

theorem Orders.tail (h : Orders le (a :: as)) : Orders le as where
  total b hb c hc := h.total b (List.mem_cons_of_mem a hb) c (List.mem_cons_of_mem a hc)
  trans b hb c hc d hd := h.trans b (List.mem_cons_of_mem a hb) c (List.mem_cons_of_mem a hc) d
    (List.mem_cons_of_mem a hd)

theorem front_cons : front le (a :: as) =
    some ((front le as).elim a fun c => if le a c = true then a else c) := by
  unfold front
  rw [List.insertionSort_cons]
  cases as.insertionSort fun a b => le a b = true with
  | nil => rfl
  | cons c rest =>
    rw [List.orderedInsert]
    show _ = some (if le a c = true then a else c)
    split <;> rfl

theorem exists_front (hne : as ≠ []) : ∃ a, front le as = some a := by
  cases as with
  | nil => exact absurd rfl hne
  | cons a as => exact ⟨_, front_cons⟩

theorem front_eq_none : front le as = none ↔ as = [] := by
  cases as with
  | nil => exact ⟨fun _ => rfl, fun _ => rfl⟩
  | cons a as =>
    rw [front_cons]
    simp

/-- **The first value comes before all.** -/
theorem front_least (horders : Orders le as) (h : front le as = some a) : Least le as a := by
  induction as generalizing a with
  | nil => cases h
  | cons b as ih =>
    have hself : ∀ c ∈ b :: as, le c c = true := fun c hc => (horders.total c hc c hc).elim id id
    rw [front_cons] at h
    cases hrest : front le as with
    | none =>
      obtain rfl := front_eq_none.mp hrest
      rw [hrest] at h
      obtain rfl := Option.some.inj h
      refine ⟨List.mem_cons_self, fun c hc => ?_⟩
      obtain rfl := List.mem_singleton.mp hc
      exact hself c hc
    | some c =>
      have hleast := ih horders.tail hrest
      have hc := List.mem_cons_of_mem b hleast.mem
      have hb : b ∈ b :: as := List.mem_cons_self
      rw [hrest] at h
      change some (if le b c = true then b else c) = some a at h
      split at h
      · rename_i hbc
        obtain rfl := Option.some.inj h
        refine ⟨hb, fun d hd => ?_⟩
        rcases List.mem_cons.mp hd with rfl | hin
        · exact hself d hd
        · exact horders.trans _ hb _ hc _ hd hbc (hleast.le d hin)
      · rename_i hbc
        obtain rfl := Option.some.inj h
        refine ⟨hc, fun d hd => ?_⟩
        rcases List.mem_cons.mp hd with rfl | hin
        · exact (horders.total _ hb _ hc).resolve_left hbc
        · exact hleast.le d hin

theorem front_of_least (h : ∀ b ∈ as, le a b = true) : front le (a :: as) = some a := by
  rw [front_cons]
  cases hrest : front le as with
  | none => rfl
  | some c =>
    have hc : c ∈ as := by
      rw [← List.mem_insertionSort fun a b => le a b = true]
      exact List.mem_of_mem_head? hrest
    exact congrArg some (if_pos (h c hc))

theorem Least.exists_perm (h : Least le as a) : ∃ bs, bs.Perm as ∧ front le bs = some a := by
  obtain ⟨s, t, rfl⟩ := List.append_of_mem h.mem
  refine ⟨a :: (s ++ t), List.perm_middle.symm, front_of_least fun b hb => h.le b ?_⟩
  rcases List.mem_append.mp hb with hb | hb
  · exact List.mem_append_left _ hb
  · exact List.mem_append_right _ (List.mem_cons_of_mem a hb)

/-- **What is put first is the same in every order of the list**, up to a map, where the map does
    not tell apart the values that come before all. -/
theorem front_fixed_iff (horders : Orders le as) (f : α → β) (h : front le as = some a) :
    (∀ bs, bs.Perm as → ∀ b, front le bs = some b → f b = f a) ↔
      ∀ b c, Least le as b → Least le as c → f b = f c := by
  constructor
  · intro hfixed b c hb hc
    obtain ⟨bs, hbs, hfront⟩ := hb.exists_perm
    obtain ⟨cs, hcs, hfront'⟩ := hc.exists_perm
    rw [hfixed bs hbs b hfront, hfixed cs hcs c hfront']
  · intro hsame bs hperm b hb
    exact hsame b a ((front_least (horders.of_perm hperm) hb).of_perm hperm.symm)
      (front_least horders h)

end Front

structure Collates (compare : String → String → Int) : Prop where
  total : ∀ s t, compare s t ≤ 0 ∨ compare t s ≤ 0
  trans : ∀ s t u, compare s t ≤ 0 → compare t u ≤ 0 → compare s u ≤ 0

end ContextLock.Js
