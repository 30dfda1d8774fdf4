/-
  Subject:   The `Map` of the language, keyed by texts.

  Entries stand in the order in which their keys were first set, and no key stands twice:
  setting a key that is there replaces its value in place.
-/
import Mathlib.Data.List.Basic
import Mathlib.Data.List.Induction

namespace ContextLock.Js

/-- The entries with the value of `k` replaced, or a new entry at the end. -/
def setEntry {α : Type} (k : String) (a : α) : List (String × α) → List (String × α)
  | [] => [(k, a)]
  | e :: es => if e.1 = k then (k, a) :: es else e :: setEntry k a es

theorem mem_keys_setEntry {α : Type} {k x : String} {a : α} {es : List (String × α)} :
    x ∈ (setEntry k a es).map Prod.fst ↔ x = k ∨ x ∈ es.map Prod.fst := by
  induction es with
  | nil => simp [setEntry]
  | cons e es ih =>
    unfold setEntry
    by_cases h : e.1 = k
    · rw [if_pos h]
      simp [← h]
    · rw [if_neg h, List.map_cons, List.mem_cons, ih, List.map_cons, List.mem_cons]
      tauto

theorem nodup_keys_setEntry {α : Type} {k : String} {a : α} {es : List (String × α)}
    (h : (es.map Prod.fst).Nodup) : ((setEntry k a es).map Prod.fst).Nodup := by
  induction es with
  | nil => simp [setEntry]
  | cons e es ih =>
    obtain ⟨hnot, hes⟩ := List.nodup_cons.mp h
    unfold setEntry
    by_cases hk : e.1 = k
    · rw [if_pos hk]
      exact List.nodup_cons.mpr ⟨hk ▸ hnot, hes⟩
    · rw [if_neg hk]
      refine List.nodup_cons.mpr ⟨fun hmem => ?_, ih hes⟩
      obtain heq | hin := mem_keys_setEntry.mp hmem
      · exact hk heq
      · exact hnot hin

/-- A `Map<string, α>`. -/
structure Map (α : Type) where
  entries : List (String × α)
  nodup : (entries.map Prod.fst).Nodup

namespace Map

variable {α : Type}

/-- `new Map()`. -/
def empty : Map α := ⟨[], List.nodup_nil⟩

/-- `map.get(k)`. -/
def get? (m : Map α) (k : String) : Option α := m.entries.lookup k

/-- `map.set(k, a)`. -/
def set (m : Map α) (k : String) (a : α) : Map α :=
  ⟨setEntry k a m.entries, nodup_keys_setEntry m.nodup⟩

/-- `map.delete(k)`. -/
def delete (m : Map α) (k : String) : Map α :=
  ⟨m.entries.filter (·.1 ≠ k), (List.filter_sublist.map Prod.fst).nodup m.nodup⟩

def values (m : Map α) : List α := m.entries.map Prod.snd

def keys (m : Map α) : List String := m.entries.map Prod.fst

def ofEntries (es : List (String × α)) : Map α := es.foldl (fun m e => m.set e.1 e.2) empty

@[simp] theorem get?_empty (k : String) : (empty : Map α).get? k = none := rfl

@[simp] theorem get?_set_self (m : Map α) (k : String) (a : α) : (m.set k a).get? k = some a := by
  show (setEntry k a m.entries).lookup k = some a
  induction m.entries with
  | nil => simp [setEntry]
  | cons e es ih =>
    unfold setEntry
    by_cases h : e.1 = k
    · simp [if_pos h]
    · have hne : (k == e.1) = false := beq_false_of_ne (Ne.symm h)
      rw [if_neg h, List.lookup_cons, hne]
      exact ih

theorem get?_set_ne (m : Map α) {k k' : String} (a : α) (h : k' ≠ k) :
    (m.set k a).get? k' = m.get? k' := by
  show (setEntry k a m.entries).lookup k' = m.entries.lookup k'
  have hne : (k' == k) = false := beq_false_of_ne h
  induction m.entries with
  | nil => simp [setEntry, List.lookup_cons, hne]
  | cons e es ih =>
    unfold setEntry
    by_cases hk : e.1 = k
    · rw [if_pos hk, List.lookup_cons, List.lookup_cons, hk, hne]
    · rw [if_neg hk, List.lookup_cons, List.lookup_cons, ih]

theorem get?_set (m : Map α) (k k' : String) (a : α) :
    (m.set k a).get? k' = if k' = k then some a else m.get? k' := by
  by_cases h : k' = k
  · rw [if_pos h, h, get?_set_self]
  · rw [if_neg h, get?_set_ne m a h]

theorem cases_of_get?_set {m : Map α} {k k' : String} {a b : α}
    (h : (m.set k a).get? k' = some b) : k' = k ∧ a = b ∨ k' ≠ k ∧ m.get? k' = some b := by
  rw [get?_set] at h
  by_cases hk : k' = k
  · rw [if_pos hk] at h
    exact .inl ⟨hk, Option.some.inj h⟩
  · rw [if_neg hk] at h
    exact .inr ⟨hk, h⟩

theorem get?_delete (m : Map α) (k k' : String) :
    (m.delete k).get? k' = if k' = k then none else m.get? k' := by
  show (m.entries.filter (·.1 ≠ k)).lookup k' = if k' = k then none else m.entries.lookup k'
  induction m.entries with
  | nil => simp
  | cons e es ih =>
    by_cases he : e.1 = k
    · rw [List.filter_cons_of_neg (by simpa using he), ih]
      by_cases hk : k' = k
      · rw [if_pos hk, if_pos hk]
      · rw [if_neg hk, if_neg hk, List.lookup_cons, beq_false_of_ne (he ▸ hk)]
    · rw [List.filter_cons_of_pos (by simpa using he), List.lookup_cons, List.lookup_cons, ih]
      by_cases hk : k' = k
      · rw [if_pos hk, if_pos hk, beq_false_of_ne fun h => he (h.symm.trans hk)]
      · rw [if_neg hk, if_neg hk]

theorem of_get?_delete {m : Map α} {k k' : String} {b : α}
    (h : (m.delete k).get? k' = some b) : k' ≠ k ∧ m.get? k' = some b := by
  rw [get?_delete] at h
  by_cases hk : k' = k
  · rw [if_pos hk] at h
    cases h
  · rw [if_neg hk] at h
    exact ⟨hk, h⟩

theorem entries_set_of_none (m : Map α) {k : String} {a : α} (h : m.get? k = none) :
    (m.set k a).entries = m.entries ++ [(k, a)] := by
  have hall : ∀ e ∈ m.entries, (k != e.1) = true := List.lookup_eq_none_iff.mp h
  show setEntry k a m.entries = m.entries ++ [(k, a)]
  generalize m.entries = es at hall
  induction es with
  | nil => rfl
  | cons e es ih =>
    have hne : e.1 ≠ k := fun heq => by simpa [heq] using hall e List.mem_cons_self
    unfold setEntry
    rw [if_neg hne, ih fun f hf => hall f (List.mem_cons_of_mem e hf), List.cons_append]

theorem entries_ofEntries {es : List (String × α)} (h : (es.map Prod.fst).Nodup) :
    (ofEntries es).entries = es := by
  have hfold : ∀ (m : Map α) (fs : List (String × α)), ((m.entries ++ fs).map Prod.fst).Nodup →
      (fs.foldl (fun m e => m.set e.1 e.2) m).entries = m.entries ++ fs := by
    intro m fs
    induction fs generalizing m with
    | nil => simp
    | cons e fs ih =>
      intro hn
      have hnew : m.get? e.1 = none := by
        rw [List.map_append, List.map_cons, List.nodup_append] at hn
        refine List.lookup_eq_none_iff.mpr fun f hf => bne_iff_ne.mpr fun heq => ?_
        exact hn.2.2 f.1 (List.mem_map_of_mem hf) e.1 List.mem_cons_self heq.symm
      have hset := entries_set_of_none m (a := e.2) hnew
      rw [List.foldl_cons, ih (m.set e.1 e.2) (by rw [hset, List.append_assoc]; exact hn), hset,
        List.append_assoc]
      rfl
  exact (hfold empty es h).trans (List.nil_append es)

theorem get?_of_mem (m : Map α) {k : String} {a : α} (h : (k, a) ∈ m.entries) :
    m.get? k = some a := by
  obtain ⟨es, hn⟩ := m
  show es.lookup k = some a
  induction es with
  | nil => simp at h
  | cons e es ih =>
    obtain ⟨hnot, hes⟩ := List.nodup_cons.mp hn
    obtain rfl | hin := List.mem_cons.mp h
    · simp
    · have hne : k ≠ e.1 := by
        rintro rfl
        exact hnot (List.mem_map.mpr ⟨_, hin, rfl⟩)
      rw [List.lookup_cons, beq_false_of_ne hne]
      exact ih hes hin

theorem mem_of_get? (m : Map α) {k : String} {a : α} (h : m.get? k = some a) :
    ∃ e ∈ m.entries, e.1 = k ∧ e.2 = a := by
  obtain ⟨front, back, he, _⟩ := List.lookup_eq_some_iff.mp h
  refine ⟨(k, a), ?_, rfl, rfl⟩
  rw [he]
  simp

theorem get?_ofEntries (es : List (String × α)) (k : String) :
    (ofEntries es).get? k = es.reverse.lookup k := by
  induction es using List.reverseRecOn with
  | nil => rfl
  | append_singleton es e ih =>
    have hset : ofEntries (es ++ [e]) = (ofEntries es).set e.1 e.2 := by simp [ofEntries]
    rw [hset, get?_set, ih, List.reverse_append, List.reverse_singleton, List.singleton_append,
      List.lookup_cons]
    by_cases hk : k = e.1
    · rw [if_pos hk, beq_iff_eq.mpr hk]
    · rw [if_neg hk, beq_false_of_ne hk]

theorem mem_of_get?_ofEntries {es : List (String × α)} {k : String} {a : α}
    (h : (ofEntries es).get? k = some a) : ∃ e ∈ es, e.1 = k ∧ e.2 = a := by
  rw [get?_ofEntries] at h
  obtain ⟨front, back, he, _⟩ := List.lookup_eq_some_iff.mp h
  have hmem : (k, a) ∈ es.reverse := by simp [he]
  exact ⟨(k, a), List.mem_reverse.mp hmem, rfl, rfl⟩

theorem get?_ofEntries_ne_none {es : List (String × α)} {k : String} (h : k ∈ es.map Prod.fst) :
    (ofEntries es).get? k ≠ none := by
  obtain ⟨e, he, rfl⟩ := List.mem_map.mp h
  rw [get?_ofEntries]
  intro hnone
  have hall := List.lookup_eq_none_iff.mp hnone e (List.mem_reverse.mpr he)
  simp at hall

end Map

end ContextLock.Js
