/-
  Subject:   Searching a range by halves, with reads that may fail.

  A predicate over the naturals holds up to some point and not beyond. The search reads it in
  the middle of what is left of the range and keeps the last place it was found to hold at;
  before anything is found it stands at a place given from outside.
-/
import Mathlib.Logic.Basic

namespace ContextLock.Machine

variable {ε : Type}

/-- The loop: `lo` to `hi` is left to be searched, `best` is the last place found, and `calls`
    counts the reads made. Below `0` there is nothing to search. -/
def bisect (read : Nat → Int → Except ε Bool) (calls : Nat) (lo hi best : Int) :
    Except ε (Int × Nat) :=
  if _h : lo ≤ hi then
    let mid := lo + (hi - lo) / 2
    match read calls mid with
    | .error e => .error e
    | .ok true => bisect read (calls + 1) (mid + 1) hi mid
    | .ok false =>
      if mid = 0 then .ok (best, calls + 1) else bisect read (calls + 1) lo (mid - 1) best
  else .ok (best, calls)
termination_by (hi + 1 - lo).toNat
decreasing_by all_goals omega

structure Reads (read : Nat → Int → Except ε Bool) (holds : Nat → Bool) : Prop where
  answered : ∀ k i b, read k i = .ok b → ∃ n : Nat, i = n ∧ b = holds n

/-- `n` is the last place from `lo` to `hi` the predicate holds at. -/
structure LastIn (holds : Nat → Bool) (lo hi : Int) (n : Nat) : Prop where
  le : lo ≤ n
  ge : (n : Int) ≤ hi
  here : holds n = true
  last : ∀ m : Nat, n < m → (m : Int) ≤ hi → holds m = false

section Search

variable {read : Nat → Int → Except ε Bool} {holds : Nat → Bool} {lo₀ hi₀ : Int}

/-- What the search keeps: beyond `hi` the predicate fails, and either nothing was found yet or
    the place before `lo` was. -/
structure Searching (holds : Nat → Bool) (lo₀ hi₀ start lo hi best : Int) : Prop where
  inside : hi ≤ hi₀
  above : ∀ m : Nat, hi < m → (m : Int) ≤ hi₀ → holds m = false
  found : (lo = lo₀ ∧ best = start) ∨
    ∃ n : Nat, best = n ∧ lo = n + 1 ∧ lo₀ ≤ n ∧ holds n = true ∧ (n : Int) ≤ hi₀

def Answer (holds : Nat → Bool) (lo₀ hi₀ start r : Int) : Prop :=
  (∃ n : Nat, r = n ∧ LastIn holds lo₀ hi₀ n) ∨
    (r = start ∧ ∀ m : Nat, lo₀ ≤ m → (m : Int) ≤ hi₀ → holds m = false)

theorem Searching.answer {start lo hi best : Int} (h : Searching holds lo₀ hi₀ start lo hi best)
    (hdone : ∀ m : Nat, lo ≤ m → (m : Int) ≤ hi → holds m = false) :
    Answer holds lo₀ hi₀ start best := by
  obtain ⟨hinside, habove, ⟨rfl, rfl⟩ | ⟨n, rfl, rfl, hlo, hn, hhi⟩⟩ := h
  · refine Or.inr ⟨rfl, fun m hlo hm => ?_⟩
    by_cases hmid : (m : Int) ≤ hi
    · exact hdone m hlo hmid
    · exact habove m (by omega) hm
  · refine Or.inl ⟨n, rfl, hlo, hhi, hn, fun m hlt hm => ?_⟩
    by_cases hmid : (m : Int) ≤ hi
    · exact hdone m (by omega) hmid
    · exact habove m (by omega) hm

theorem bisect_searching (hread : Reads read holds)
    (hmono : ∀ m n, m ≤ n → holds n = true → holds m = true) {start : Int} {calls : Nat}
    {lo hi best : Int} (h : Searching holds lo₀ hi₀ start lo hi best) {r : Int} {k : Nat}
    (hr : bisect read calls lo hi best = .ok (r, k)) : Answer holds lo₀ hi₀ start r := by
  induction hmeasure : (hi + 1 - lo).toNat using Nat.strongRecOn
    generalizing calls lo hi best with
  | ind size ih =>
    rw [bisect] at hr
    split at hr
    · rename_i hle
      dsimp only at hr
      have hmid : lo ≤ lo + (hi - lo) / 2 ∧ lo + (hi - lo) / 2 ≤ hi := by omega
      generalize lo + (hi - lo) / 2 = mid at hr hmid
      cases hb : read calls mid with
      | error e =>
        rw [hb] at hr
        cases hr
      | ok b =>
        obtain ⟨n, rfl, rfl⟩ := hread.answered _ _ _ hb
        rw [hb] at hr
        cases hn : holds n with
        | true =>
          rw [hn] at hr
          have hlo : lo₀ ≤ n := by
            obtain ⟨rfl, -⟩ | ⟨p, -, rfl, hp, -⟩ := h.found
            · exact hmid.1
            · omega
          have hnext : Searching holds lo₀ hi₀ start (n + 1) hi n :=
            ⟨h.inside, h.above, Or.inr ⟨n, rfl, rfl, hlo, hn, Int.le_trans hmid.2 h.inside⟩⟩
          exact ih _ (by omega) hnext hr rfl
        | false =>
          rw [hn] at hr
          dsimp only at hr
          have hfails : ∀ m : Nat, n ≤ m → holds m = false := fun m hm =>
            eq_false_of_ne_true fun hholds => by
              have hearlier := hmono n m hm hholds
              rw [hn] at hearlier
              cases hearlier
          split at hr
          · rename_i hzero
            cases hr
            exact h.answer fun m _ _ => hfails m (by omega)
          · have hinside := h.inside
            have hnext : Searching holds lo₀ hi₀ start lo (n - 1) best := by
              refine ⟨by omega, ?_, h.found⟩
              intro m hm hle'
              exact hfails m (by omega)
            exact ih _ (by omega) hnext hr rfl
    · rename_i hempty
      cases hr
      exact h.answer fun m hlo hhi => absurd (Int.le_trans hlo hhi) hempty

/-- **What a search answers.** -/
theorem bisect_ok (hread : Reads read holds)
    (hmono : ∀ m n, m ≤ n → holds n = true → holds m = true) {calls : Nat} {lo hi start r : Int}
    {k : Nat} (hr : bisect read calls lo hi start = .ok (r, k)) : Answer holds lo hi start r :=
  bisect_searching hread hmono
    ⟨Int.le_refl _, fun m hlt hle => absurd hle (by omega), Or.inl ⟨rfl, rfl⟩⟩ hr

end Search

end ContextLock.Machine
