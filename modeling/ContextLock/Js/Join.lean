/-
  Subject:   Parts joined by a separator.

  Whether a joined text gives back its parts depends on where the separator may occur. If it occurs
  in no part but the first, the parts are read off from the right.
-/
import Mathlib.Data.List.Induction
import ContextLock.Js.Value

namespace ContextLock.Js

variable {c : Char} {a b : List Char}

/-- The parts after the first, each with the separator before it. -/
def tailed (c : Char) (parts : List (List Char)) : List Char := parts.flatMap fun t => c :: t

theorem tailed_concat (parts : List (List Char)) (t : List Char) :
    tailed c (parts ++ [t]) = tailed c parts ++ c :: t := by
  simp [tailed]

theorem intercalate_cons (parts : List (List Char)) :
    [c].intercalate (a :: parts) = a ++ tailed c parts := by
  induction parts generalizing a with
  | nil => simp [tailed]
  | cons t parts ih =>
    rw [List.intercalate_cons_cons, ih]
    simp [tailed]

theorem mem_of_mem_intercalate {parts : List (List Char)} {d : Char}
    (h : d ∈ [c].intercalate parts) : d = c ∨ ∃ t ∈ parts, d ∈ t := by
  rcases parts with _ | ⟨a, parts⟩
  · cases h
  · rw [intercalate_cons] at h
    rcases List.mem_append.mp h with h | h
    · exact .inr ⟨a, List.mem_cons_self, h⟩
    · obtain ⟨t, ht, hd⟩ := List.mem_flatMap.mp h
      rcases List.mem_cons.mp hd with hd | hd
      · exact .inl hd
      · exact .inr ⟨t, List.mem_cons_of_mem a ht, hd⟩

theorem split_first {s t xs ys : List Char} (hs : c ∉ s) (ht : c ∉ t)
    (h : s ++ c :: xs = t ++ c :: ys) : s = t ∧ xs = ys := by
  induction s generalizing t with
  | nil =>
    cases t with
    | nil => exact ⟨rfl, (List.cons.inj h).2⟩
    | cons d t =>
      have hd := (List.cons.inj h).1
      exact absurd (hd ▸ List.mem_cons_self) ht
  | cons d s ih =>
    cases t with
    | nil =>
      have hd := (List.cons.inj h).1
      exact absurd (hd ▸ List.mem_cons_self) hs
    | cons e t =>
      obtain ⟨rfl, hrest⟩ := List.cons.inj h
      obtain ⟨hst, hxy⟩ := ih (fun hmem => hs (List.mem_cons_of_mem d hmem))
        (fun hmem => ht (List.mem_cons_of_mem d hmem)) hrest
      exact ⟨congrArg (d :: ·) hst, hxy⟩

/-- **What comes after the last separator.** -/
theorem split_last {s t xs ys : List Char} (hs : c ∉ s) (ht : c ∉ t)
    (h : xs ++ c :: s = ys ++ c :: t) : xs = ys ∧ s = t := by
  have hreverse := congrArg List.reverse h
  simp only [List.reverse_append, List.reverse_cons, List.append_assoc, List.singleton_append]
    at hreverse
  obtain ⟨hst, hxy⟩ := split_first (fun hmem => hs (List.mem_reverse.mp hmem))
    (fun hmem => ht (List.mem_reverse.mp hmem)) hreverse
  exact ⟨List.reverse_inj.mp hxy, List.reverse_inj.mp hst⟩

theorem append_tailed_inj {parts parts' : List (List Char)} (hlength : parts.length = parts'.length)
    (hp : ∀ t ∈ parts, c ∉ t) (hp' : ∀ t ∈ parts', c ∉ t)
    (h : a ++ tailed c parts = b ++ tailed c parts') : a = b ∧ parts = parts' := by
  induction parts using List.reverseRecOn generalizing parts' with
  | nil =>
    obtain rfl := List.length_eq_zero_iff.mp hlength.symm
    exact ⟨by simpa [tailed] using h, rfl⟩
  | append_singleton parts t ih =>
    rcases List.eq_nil_or_concat' parts' with rfl | ⟨rest, u, rfl⟩
    · simp at hlength
    · rw [tailed_concat, tailed_concat, ← List.append_assoc, ← List.append_assoc] at h
      obtain ⟨hfront, rfl⟩ := split_last (hp t (by simp)) (hp' u (by simp)) h
      have hrest : parts.length = rest.length := by simpa using hlength
      obtain ⟨hab, rfl⟩ := ih hrest (fun s hs => hp s (List.mem_append_left _ hs))
        (fun s hs => hp' s (List.mem_append_left _ hs)) hfront
      exact ⟨hab, rfl⟩

/-- **The parts of a joined text**, as many on both sides. -/
theorem intercalate_inj {sep s t : String} {parts parts' : List String} (hsep : sep.toList = [c])
    (hlength : parts.length = parts'.length) (hp : ∀ p ∈ parts, c ∉ p.toList)
    (hp' : ∀ p ∈ parts', c ∉ p.toList)
    (h : sep.intercalate (s :: parts) = sep.intercalate (t :: parts')) :
    s = t ∧ parts = parts' := by
  have hlists := congrArg String.toList h
  simp only [String.toList_intercalate, hsep, List.map_cons, intercalate_cons] at hlists
  obtain ⟨hst, hparts⟩ := append_tailed_inj (by simpa using hlength)
    (fun u hu => by
      obtain ⟨p, hmem, rfl⟩ := List.mem_map.mp hu
      exact hp p hmem)
    (fun u hu => by
      obtain ⟨p, hmem, rfl⟩ := List.mem_map.mp hu
      exact hp' p hmem) hlists
  exact ⟨String.toList_inj.mp hst,
    List.map_injective_iff.mpr (fun _ _ heq => String.toList_inj.mp heq) hparts⟩

end ContextLock.Js
