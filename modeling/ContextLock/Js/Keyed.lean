/-
  Subject:   Lists whose items have keys: keeping the first of each key.
-/
import ContextLock.Js.TextOrder

namespace ContextLock.Js

variable {α β κ : Type}

/-! ## 1. The first of each key -/

section Firsts

variable [DecidableEq κ] (key : α → κ)

/-- An item is added at the end, unless one of its key is there. -/
def addNew (kept : List α) (a : α) : List α :=
  if key a ∈ kept.map key then kept else kept ++ [a]

def firsts (as : List α) : List α := as.foldl (addNew key) []

variable {key}

theorem firsts_append_singleton (as : List α) (a : α) :
    firsts key (as ++ [a]) = addNew key (firsts key as) a := by
  simp [firsts]

theorem prefix_addNew (kept : List α) (a : α) : kept <+: addNew key kept a := by
  unfold addNew
  by_cases h : key a ∈ kept.map key
  · rw [if_pos h]
  · rw [if_neg h]
    exact List.prefix_append kept [a]

theorem firsts_prefix (as bs : List α) : firsts key as <+: firsts key (as ++ bs) := by
  induction bs using List.reverseRecOn with
  | nil => simp
  | append_singleton bs b ih =>
    rw [← List.append_assoc, firsts_append_singleton]
    exact ih.trans (prefix_addNew _ b)

theorem mem_keys_firsts {as : List α} {k : κ} : k ∈ (firsts key as).map key ↔ k ∈ as.map key := by
  induction as using List.reverseRecOn generalizing k with
  | nil => rfl
  | append_singleton as a ih =>
    rw [firsts_append_singleton, addNew]
    by_cases h : key a ∈ (firsts key as).map key
    · have ha : key a ∈ as.map key := ih.mp h
      rw [if_pos h, ih, List.map_append, List.mem_append]
      simp only [List.map_cons, List.map_nil, List.mem_singleton]
      exact ⟨Or.inl, fun hk => hk.elim id fun heq => heq ▸ ha⟩
    · rw [if_neg h, List.map_append, List.mem_append, ih, List.map_append, List.mem_append]

theorem nodup_keys_firsts (as : List α) : ((firsts key as).map key).Nodup := by
  induction as using List.reverseRecOn with
  | nil => exact List.nodup_nil
  | append_singleton as a ih =>
    rw [firsts_append_singleton, addNew]
    by_cases h : key a ∈ (firsts key as).map key
    · rwa [if_pos h]
    · rw [if_neg h, List.map_append, List.map_cons, List.map_nil, ← List.concat_eq_append]
      exact ih.concat h

/-- **An item is kept where none before it has its key.** -/
theorem mem_firsts {as : List α} {a : α} :
    a ∈ firsts key as ↔ ∃ before rest, as = before ++ a :: rest ∧ key a ∉ before.map key := by
  constructor
  · intro h
    induction as using List.reverseRecOn with
    | nil => simp [firsts] at h
    | append_singleton as b ih =>
      have hold : a ∈ firsts key as →
          ∃ before rest, as ++ [b] = before ++ a :: rest ∧ key a ∉ before.map key := by
        intro hmem
        obtain ⟨before, rest, rfl, hnot⟩ := ih hmem
        exact ⟨before, rest ++ [b], by simp, hnot⟩
      rw [firsts_append_singleton, addNew] at h
      by_cases hb : key b ∈ (firsts key as).map key
      · rw [if_pos hb] at h
        exact hold h
      · rw [if_neg hb] at h
        rcases List.mem_append.mp h with hmem | hmem
        · exact hold hmem
        · obtain rfl := List.mem_singleton.mp hmem
          exact ⟨as, [], rfl, fun hin => hb (mem_keys_firsts.mpr hin)⟩
  · intro h
    obtain ⟨before, rest, rfl, hnot⟩ := h
    have hprefix : firsts key (before ++ [a]) <+: firsts key (before ++ [a] ++ rest) :=
      firsts_prefix _ rest
    rw [List.append_assoc, List.singleton_append] at hprefix
    refine hprefix.subset ?_
    rw [firsts_append_singleton, addNew, if_neg fun hin => hnot (mem_keys_firsts.mp hin)]
    simp

theorem mem_of_mem_firsts {as : List α} {a : α} (h : a ∈ firsts key as) : a ∈ as := by
  obtain ⟨before, rest, rfl, _⟩ := mem_firsts.mp h
  simp

theorem keys_firsts_perm {as bs : List α} (h : as.Perm bs) :
    ((firsts key as).map key).Perm ((firsts key bs).map key) := by
  refine (List.perm_ext_iff_of_nodup (nodup_keys_firsts as) (nodup_keys_firsts bs)).mpr fun k => ?_
  rw [mem_keys_firsts, mem_keys_firsts]
  exact (h.map key).mem_iff

end Firsts

/-! ## 2. Lists in step -/

section InStep

variable {key : α → κ} {key' : β → κ}

theorem exists_in_step {as : List α} {bs : List β} (h : (as.map key).Perm (bs.map key')) :
    ∃ cs, cs.Perm bs ∧ List.Forall₂ (fun a b => key a = key' b) as cs := by
  have hright : List.Forall₂ (fun k b => k = key' b) (bs.map key') bs :=
    List.forall₂_map_left_iff.mpr (List.forall₂_same.mpr fun _ _ => rfl)
  obtain ⟨cs, hcs, hperm⟩ := List.perm_comp_forall₂ h hright
  exact ⟨cs, hperm, List.forall₂_map_left_iff.mp hcs⟩

variable {R : α → β → Prop} (le : κ → κ → Bool)

theorem forall₂_orderedInsert (hkey : ∀ a b, R a b → key a = key' b) {a : α} {b : β} (hab : R a b)
    {as : List α} {bs : List β} (h : List.Forall₂ R as bs) :
    List.Forall₂ R (as.orderedInsert (fun x y => le (key x) (key y)) a)
      (bs.orderedInsert (fun x y => le (key' x) (key' y)) b) := by
  induction h with
  | nil => exact .cons hab .nil
  | @cons c d cs ds hcd hrest ih =>
    rw [List.orderedInsert, List.orderedInsert, hkey a b hab, hkey c d hcd]
    by_cases hle : le (key' b) (key' d) = true
    · rw [if_pos hle, if_pos hle]
      exact .cons hab (.cons hcd hrest)
    · rw [if_neg hle, if_neg hle]
      exact .cons hcd ih

/-- **Lists in step are in step after sorting**, where items in step have one key. -/
theorem forall₂_sortBy (hkey : ∀ a b, R a b → key a = key' b) {as : List α} {bs : List β}
    (h : List.Forall₂ R as bs) : List.Forall₂ R (sortBy le key as) (sortBy le key' bs) := by
  induction h with
  | nil => exact .nil
  | cons hab _ ih => exact forall₂_orderedInsert le hkey hab ih

end InStep

/-! ## 3. The other way round -/

/-- **Sorting the other way round** gives the list backwards, where every key stands once. -/
theorem sortBy_flip {le : κ → κ → Bool} {key : α → κ} (htotal : ∀ x y, le x y = true ∨ le y x = true)
    (htrans : ∀ x y z, le x y = true → le y z = true → le x z = true)
    (hantisymm : ∀ x y, le x y = true → le y x = true → x = y) {as : List α}
    (hkeys : (as.map key).Nodup) :
    sortBy (fun x y => le y x) key as = (sortBy le key as).reverse := by
  have : Std.Total fun a b : α => le (key a) (key b) = true := ⟨fun a b => htotal _ _⟩
  have : IsTrans α fun a b : α => le (key a) (key b) = true := ⟨fun a b c => htrans _ _ _⟩
  have : Std.Total fun a b : α => le (key b) (key a) = true := ⟨fun a b => htotal _ _⟩
  have : IsTrans α fun a b : α => le (key b) (key a) = true :=
    ⟨fun a b c hab hbc => htrans _ _ _ hbc hab⟩
  refine List.Perm.eq_of_pairwise (fun a b ha hb hab hba => ?_) (List.pairwise_insertionSort _ as)
    (List.pairwise_reverse.mpr (List.pairwise_insertionSort _ as)) ?_
  · have hmem : b ∈ as := (sortBy_perm le key as).mem_iff.mp (List.mem_reverse.mp hb)
    exact List.inj_on_of_nodup_map hkeys ((List.perm_insertionSort _ as).mem_iff.mp ha) hmem
      (hantisymm _ _ hba hab)
  · exact (sortBy_perm _ key as).trans
      ((sortBy_perm le key as).symm.trans (List.reverse_perm _).symm)

end ContextLock.Js
