/-
  Subject:   The order of texts by code units, and sorting by a key.
-/
import ContextLock.Js.Sha256

namespace ContextLock.Js

/-! ## 1. Code units -/

def unitsOf (c : Char) : List Nat :=
  if c.toNat < 0x10000 then [c.toNat]
  else [0xd800 + (c.toNat - 0x10000) / 0x400, 0xdc00 + (c.toNat - 0x10000) % 0x400]

/-- The first character of a text, by its code units, and what follows it. -/
def readUnits : List Nat → Option (Char × List Nat)
  | [] => none
  | h :: t =>
    if 0xd800 ≤ h ∧ h < 0xdc00 then
      t.head?.map fun l => (Char.ofNat (0x10000 + (h - 0xd800) * 0x400 + (l - 0xdc00)), t.tail)
    else some (Char.ofNat h, t)

theorem readUnits_unitsOf (c : Char) (t : List Nat) : readUnits (unitsOf c ++ t) = some (c, t) := by
  have hvalid : c.toNat < 0xd800 ∨ 0xdfff < c.toNat ∧ c.toNat < 0x110000 := c.valid
  unfold unitsOf
  by_cases hc : c.toNat < 0x10000
  · rw [if_pos hc, List.singleton_append, readUnits, if_neg (by omega), Char.ofNat_toNat]
  · rw [if_neg hc, List.cons_append, List.singleton_append]
    rw [readUnits, if_pos (by omega), List.head?_cons, List.tail_cons, Option.map_some]
    have hback : 0x10000 + (0xd800 + (c.toNat - 0x10000) / 0x400 - 0xd800) * 0x400
        + (0xdc00 + (c.toNat - 0x10000) % 0x400 - 0xdc00) = c.toNat := by omega
    rw [hback, Char.ofNat_toNat]

theorem codeUnits_inj {s t : String} (h : codeUnits s = codeUnits t) : s = t := by
  have hread : ∀ cs ds : List Char, cs.flatMap unitsOf = ds.flatMap unitsOf → cs = ds := by
    intro cs
    induction cs with
    | nil =>
      intro ds heq
      cases ds with
      | nil => rfl
      | cons d ds =>
        have hfirst := readUnits_unitsOf d (ds.flatMap unitsOf)
        rw [← List.flatMap_cons, ← heq] at hfirst
        cases hfirst
    | cons c cs ih =>
      intro ds heq
      have hfirst := readUnits_unitsOf c (cs.flatMap unitsOf)
      rw [← List.flatMap_cons, heq] at hfirst
      cases ds with
      | nil => cases hfirst
      | cons d ds =>
        rw [List.flatMap_cons, readUnits_unitsOf] at hfirst
        obtain ⟨rfl, hrest⟩ := Prod.mk.inj (Option.some.inj hfirst)
        rw [ih ds hrest.symm]
  exact String.toList_inj.mp (hread _ _ h)

/-! ## 2. The order -/

theorem textLe_iff {a b : String} : textLe a b = true ↔ codeUnits a ≤ codeUnits b := by
  rw [textLe, decide_eq_true_iff]

theorem textLe_total (a b : String) : textLe a b = true ∨ textLe b a = true :=
  (le_total (codeUnits a) (codeUnits b)).imp textLe_iff.mpr textLe_iff.mpr

theorem textLe_trans {a b c : String} (hab : textLe a b = true) (hbc : textLe b c = true) :
    textLe a c = true :=
  textLe_iff.mpr (le_trans (textLe_iff.mp hab) (textLe_iff.mp hbc))

theorem textLe_antisymm {a b : String} (hab : textLe a b = true) (hba : textLe b a = true) :
    a = b :=
  codeUnits_inj (le_antisymm (textLe_iff.mp hab) (textLe_iff.mp hba))

/-! ## 3. Sorting by a key -/

section SortBy

variable {α κ : Type} (le : κ → κ → Bool) (key : α → κ)

def sortBy (as : List α) : List α := as.insertionSort fun a b => le (key a) (key b)

theorem sortBy_perm (as : List α) : (sortBy le key as).Perm as := List.perm_insertionSort _ as

theorem map_sortBy {β : Type} (f : α → β) (key' : β → κ) (hkey : ∀ a, key' (f a) = key a)
    (as : List α) : (sortBy le key as).map f = sortBy le key' (as.map f) := by
  refine List.map_insertionSort _ _ f as fun a _ b _ => ?_
  rw [hkey, hkey]

variable {le key}

/-- **Sorting by keys that stand once each forgets the order of a list.** -/
theorem sortBy_eq_of_perm (htotal : ∀ x y, le x y = true ∨ le y x = true)
    (htrans : ∀ x y z, le x y = true → le y z = true → le x z = true)
    (hantisymm : ∀ x y, le x y = true → le y x = true → x = y) {as bs : List α}
    (hkeys : (as.map key).Nodup) (h : as.Perm bs) : sortBy le key as = sortBy le key bs := by
  have : Std.Total fun a b : α => le (key a) (key b) = true := ⟨fun a b => htotal _ _⟩
  have : IsTrans α fun a b : α => le (key a) (key b) = true := ⟨fun a b c => htrans _ _ _⟩
  refine List.Perm.eq_of_pairwise (fun a b ha hb hab hba => ?_) (List.pairwise_insertionSort _ as)
    (List.pairwise_insertionSort _ bs) ?_
  · have hmem : b ∈ as := h.mem_iff.mpr ((sortBy_perm le key bs).mem_iff.mp hb)
    exact List.inj_on_of_nodup_map hkeys ((sortBy_perm le key as).mem_iff.mp ha) hmem
      (hantisymm _ _ hab hba)
  · exact (sortBy_perm le key as).trans (h.trans (sortBy_perm le key bs).symm)

theorem sortBy_filter (htotal : ∀ x y, le x y = true ∨ le y x = true)
    (htrans : ∀ x y z, le x y = true → le y z = true → le x z = true) (p : α → Bool)
    (as : List α) : (sortBy le key as).filter p = sortBy le key (as.filter p) := by
  have : Std.Total fun a b : α => le (key a) (key b) = true := ⟨fun a b => htotal _ _⟩
  have : IsTrans α fun a b : α => le (key a) (key b) = true := ⟨fun a b c => htrans _ _ _⟩
  -- where a value goes into a sorted list does not depend on what is filtered out
  have hinsert : ∀ (a : α) (bs : List α), bs.Pairwise (fun x y => le (key x) (key y) = true) →
      (bs.orderedInsert (fun x y => le (key x) (key y) = true) a).filter p =
        if p a then (bs.filter p).orderedInsert (fun x y => le (key x) (key y) = true) a
        else bs.filter p := by
    intro a bs hsorted
    induction bs with
    | nil => cases hp : p a <;> simp [hp]
    | cons b bs ih =>
      obtain ⟨hfirst, hrest⟩ := List.pairwise_cons.mp hsorted
      by_cases hab : le (key a) (key b) = true
      · rw [List.orderedInsert, if_pos hab]
        cases hp : p a with
        | false => rw [List.filter_cons_of_neg (by simp [hp]), if_neg (by decide)]
        | true =>
          rw [List.filter_cons_of_pos hp, if_pos rfl]
          cases hfiltered : (b :: bs).filter p with
          | nil => rfl
          | cons c cs =>
            have hmem : c ∈ b :: bs := List.mem_of_mem_filter (hfiltered ▸ List.mem_cons_self)
            have hac : le (key a) (key c) = true := by
              rcases List.mem_cons.mp hmem with rfl | hc
              · exact hab
              · exact htrans _ _ _ hab (hfirst c hc)
            rw [List.orderedInsert, if_pos hac]
      · rw [List.orderedInsert, if_neg hab]
        cases hb : p b with
        | false =>
          rw [List.filter_cons_of_neg (by simp [hb]), ih hrest,
            List.filter_cons_of_neg (by simp [hb])]
        | true =>
          rw [List.filter_cons_of_pos hb, ih hrest, List.filter_cons_of_pos hb]
          cases hp : p a with
          | false => rfl
          | true => rw [if_pos rfl, if_pos rfl, List.orderedInsert, if_neg hab]
  induction as with
  | nil => rfl
  | cons a as ih =>
    have hsorted : (sortBy le key as).Pairwise fun x y => le (key x) (key y) = true :=
      List.pairwise_insertionSort _ as
    show ((sortBy le key as).orderedInsert _ a).filter p = _
    rw [hinsert a _ hsorted, ih]
    cases hp : p a with
    | false => rw [if_neg (by decide), List.filter_cons_of_neg (by simp [hp])]
    | true =>
      rw [if_pos rfl, List.filter_cons_of_pos hp]
      rfl

end SortBy

end ContextLock.Js
