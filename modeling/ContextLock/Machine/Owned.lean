/-
  Subject:   Threads that each own a part of the state.

  Every thread of a pool has a token: what it owns, if anything. `H s entry t` says that a thread
  with the token `t` does its part in the state `s`. A turn may change what its own thread owns; the
  other threads keep their parts, because no two tokens have the same key.
-/
import Mathlib.Logic.Function.Basic
import ContextLock.Machine.Thread

namespace ContextLock.Machine.Pool

variable {σ E : Type} {R : E → Type} {ε α Op τ κ : Type}

/-- `owner` gives every thread its token; the keys of the tokens differ. -/
structure Owned (key : τ → Option κ) (H : σ → Op × Thread σ E R ε α → τ → Prop)
    (p : Pool σ E R ε α Op) (owner : Nat → τ) : Prop where
  holds : ∀ i entry, p.threads[i]? = some entry → H p.shared entry (owner i)
  apart : ∀ i j k, key (owner i) = some k → key (owner j) = some k → i = j
  fresh : ∀ i, p.threads.length ≤ i → key (owner i) = none

variable {key : τ → Option κ} {H : σ → Op × Thread σ E R ε α → τ → Prop}
  {p : Pool σ E R ε α Op} {owner : Nat → τ}

namespace Owned

theorem idle (s : σ) {t : τ} (ht : key t = none) :
    Owned key H (Pool.idle s : Pool σ E R ε α Op) fun _ => t := by
  refine ⟨fun i entry hi => ?_, fun i j k hi => ?_, fun _ _ => ht⟩
  · cases hi
  · rw [ht] at hi
    cases hi

theorem apart_update (h : Owned key H p owner) {i : Nat} {t : τ}
    (ht : ∀ k, key t = some k → ∀ j, j ≠ i → key (owner j) ≠ some k) (j j' : Nat) (k : κ)
    (hj : key (Function.update owner i t j) = some k)
    (hj' : key (Function.update owner i t j') = some k) : j = j' := by
  by_cases hji : j = i
  · subst hji
    rw [Function.update_self] at hj
    by_cases hji' : j' = j
    · exact hji'.symm
    · rw [Function.update_of_ne hji'] at hj'
      exact absurd hj' (ht k hj j' hji')
  · rw [Function.update_of_ne hji] at hj
    by_cases hji' : j' = i
    · subst hji'
      rw [Function.update_self] at hj'
      exact absurd hj (ht k hj' j hji)
    · rw [Function.update_of_ne hji'] at hj'
      exact h.apart j j' k hj hj'

/-- **A thread that takes a turn**, and owns `t` afterwards. -/
theorem set (h : Owned key H p owner) {i : Nat} {entry : Op × Thread σ E R ε α} {s : σ} {t : τ}
    (hi : i < p.threads.length) (hown : H s entry t)
    (ht : ∀ k, key t = some k → ∀ j, j ≠ i → key (owner j) ≠ some k)
    (hothers : ∀ other u, H p.shared other u →
      (∀ k, key u = some k → key (owner i) ≠ some k ∧ key t ≠ some k) → H s other u) :
    Owned key H ⟨s, p.threads.set i entry⟩ (Function.update owner i t) := by
  refine ⟨fun j other hj => ?_, h.apart_update ht, fun j hj => ?_⟩
  · by_cases hji : j = i
    · subst hji
      rw [List.getElem?_set_self hi] at hj
      cases hj
      rw [Function.update_self]
      exact hown
    · rw [List.getElem?_set_ne (Ne.symm hji)] at hj
      rw [Function.update_of_ne hji]
      refine hothers other _ (h.holds j other hj) fun k hk => ⟨fun hsame => ?_, fun hsame => ?_⟩
      · exact hji (h.apart j i k hk hsame)
      · exact ht k hsame j hji hk
  · have hlength : p.threads.length ≤ j := by simpa using hj
    have hji : j ≠ i := by omega
    rw [Function.update_of_ne hji]
    exact h.fresh j hlength

/-- **A thread that starts**, and owns `t`. -/
theorem start (h : Owned key H p owner) {entry : Op × Thread σ E R ε α} {s : σ} {t : τ}
    (hown : H s entry t) (ht : ∀ k, key t = some k → ∀ j, key (owner j) ≠ some k)
    (hothers : ∀ other u, H p.shared other u → (∀ k, key u = some k → key t ≠ some k) →
      H s other u) :
    Owned key H ⟨s, p.threads ++ [entry]⟩ (Function.update owner p.threads.length t) := by
  refine ⟨fun j other hj => ?_, h.apart_update fun k hk j _ => ht k hk j, fun j hj => ?_⟩
  · by_cases hji : j = p.threads.length
    · subst hji
      rw [List.getElem?_concat_length] at hj
      cases hj
      rw [Function.update_self]
      exact hown
    · have hj := (cases_of_getElem?_concat hj).resolve_right fun hnew => hji hnew.1
      rw [Function.update_of_ne hji]
      exact hothers other _ (h.holds j other hj) fun k hk hsame => ht k hsame j hk
  · have hlength : p.threads.length + 1 ≤ j := by simpa using hj
    have hji : j ≠ p.threads.length := by omega
    rw [Function.update_of_ne hji]
    exact h.fresh j (by omega)

theorem unowned (h : Owned key H p owner) {k : κ}
    (hnone : ∀ entry u, H p.shared entry u → key u ≠ some k) (j : Nat) :
    key (owner j) ≠ some k := by
  by_cases hlt : j < p.threads.length
  · exact hnone _ _ (h.holds j _ (List.getElem?_eq_getElem hlt))
  · rw [h.fresh j (by omega)]
    exact fun hsome => by cases hsome

end Owned

end ContextLock.Machine.Pool
