/-
  Subject:   Threads whose updates are justified by the answer that began their turn.

  Some answers are marked. What a thread may assume of the state at the beginning of a turn depends
  on whether the answer it got is one of them; its updates keep the assumption and change the state
  only as the thread promises. So who resumes a thread after a marked answer only where the
  assumption holds gets the promise for every turn.
-/
import ContextLock.Machine.Thread

namespace ContextLock.Machine

variable {σ E : Type} {R : E → Type} {ε α β : Type}

namespace Thread

/-- In a turn of kind `m` (whether its answer was marked) the thread assumes `I m` of the state, and
    every update keeps `I m` and does `G`; it ends with `Q` or, where it throws, with `T`. -/
def Paced (instant marked : E → Bool) (I : Bool → σ → Prop) (G : σ → σ → Prop) (Q : Bool → α → Prop)
    (T : Bool → ε → Prop) : Bool → Thread σ E R ε α → Prop
  | m, ok a => Q m a
  | m, threw e => T m e
  | m, atom f k => (∀ s, I m s → G s (f s) ∧ I m (f s)) ∧ ∀ s, (k s).Paced instant marked I G Q T m
  | m, call e k => ∀ r, (k r).Paced instant marked I G Q T (if instant e then m else marked e)

/-- A thread that waits: what it does next is justified by the answer it waits for. -/
def Waiting (instant marked : E → Bool) (I : Bool → σ → Prop) (G : σ → σ → Prop) :
    Thread σ E R ε α → Prop
  | call e k => ∀ r, (k r).Paced instant marked I G (fun _ _ => True) (fun _ _ => True) (marked e)
  | _ => True

namespace Paced

variable {instant marked : E → Bool} {I : Bool → σ → Prop} {G : σ → σ → Prop} {m : Bool}
  {Q Q' : Bool → α → Prop} {T T' : Bool → ε → Prop} {p : Thread σ E R ε α}

theorem mono (h : p.Paced instant marked I G Q T m) (hQ : ∀ m a, Q m a → Q' m a)
    (hT : ∀ m e, T m e → T' m e) : p.Paced instant marked I G Q' T' m := by
  induction p generalizing m with
  | ok a => exact hQ m a h
  | threw e => exact hT m e h
  | atom f k ih => exact ⟨h.1, fun s => ih s (h.2 s)⟩
  | call e k ih => exact fun r => ih r (h r)

/-- **Sequencing.** -/
theorem bind {Q : Bool → β → Prop} {f : α → Thread σ E R ε β}
    (h : p.Paced instant marked I G (fun m a => (f a).Paced instant marked I G Q T m) T m) :
    (p >>= f).Paced instant marked I G Q T m := by
  rw [bind_eq]
  induction p generalizing m with
  | ok a => exact h
  | threw e => exact h
  | atom g k ih => exact ⟨h.1, fun s => ih s (h.2 s)⟩
  | call e k ih => exact fun r => ih r (h r)

/-- **Caught errors.** -/
theorem attempt {Q : Bool → Except ε α → Prop}
    (h : p.Paced instant marked I G (fun m a => Q m (.ok a)) (fun m e => Q m (.error e)) m) :
    p.attempt.Paced instant marked I G Q T m := by
  induction p generalizing m with
  | ok a => exact h
  | threw e => exact h
  | atom g k ih => exact ⟨h.1, fun s => ih s (h.2 s)⟩
  | call e k ih => exact fun r => ih r (h r)

theorem update {Q : Bool → Unit → Prop} {f : σ → σ} (hf : ∀ s, I m s → G s (f s) ∧ I m (f s))
    (h : Q m ()) : (Thread.update f : Thread σ E R ε Unit).Paced instant marked I G Q T m :=
  ⟨hf, fun _ => h⟩

theorem read {Q : Bool → σ → Prop} (hrefl : ∀ s, G s s) (h : ∀ s, Q m s) :
    (Thread.read : Thread σ E R ε σ).Paced instant marked I G Q T m :=
  ⟨fun s hI => ⟨hrefl s, hI⟩, h⟩

theorem lift {x : Except ε α} (hQ : ∀ a, Q m a) (hT : ∀ e, T m e) :
    (Thread.lift x : Thread σ E R ε α).Paced instant marked I G Q T m := by
  cases x with
  | ok a => exact hQ a
  | error e => exact hT e

theorem answer {e : E} {Q : Bool → R e → Prop} (hinstant : instant e = true) (h : ∀ r, Q m r) :
    (Thread.ask e : Thread σ E R ε (R e)).Paced instant marked I G Q T m := by
  intro r
  rw [hinstant]
  exact h r

/-- **Waiting** for an answer begins a turn of its kind. -/
theorem ask {e : E} {Q : Bool → R e → Prop} (hinstant : instant e = false)
    (h : ∀ r, Q (marked e) r) :
    (Thread.ask e : Thread σ E R ε (R e)).Paced instant marked I G Q T m := by
  intro r
  rw [hinstant]
  exact h r

/-- **Harmless threads** keep the promise in a turn of any kind. -/
theorem of_within (hG : ∀ m s s', I m s → G s s' → I m s') (h : p.Within G) (hQ : ∀ m a, Q m a)
    (hT : ∀ m e, T m e) : p.Paced instant marked I G Q T m := by
  induction p generalizing m with
  | ok a => exact hQ m a
  | threw e => exact hT m e
  | atom f k ih => exact ⟨fun s hI => ⟨h.1 s, hG m s _ hI (h.1 s)⟩, fun s => ih s (h.2 s)⟩
  | call e k ih => exact fun r => ih r (h r)

theorem within (hI : ∀ m s, I m s) (h : p.Paced instant marked I G Q T m) : p.Within G := by
  induction p generalizing m with
  | ok a => trivial
  | threw e => trivial
  | atom f k ih => exact ⟨fun s => (h.1 s (hI m s)).1, fun s => ih s (h.2 s)⟩
  | call e k ih => exact fun r => ih r (h r)

/-- **One turn** whose beginning meets the assumption. -/
theorem settle {o : Oracle R} {n : Nat} {s : σ} (hrefl : ∀ s, G s s)
    (htrans : ∀ s t u, G s t → G t u → G s u) (hI : I m s)
    (h : p.Paced instant marked I G (fun _ _ => True) (fun _ _ => True) m) :
    G s (p.settle instant o n s).2 ∧ (p.settle instant o n s).1.Waiting instant marked I G := by
  induction p generalizing n s m with
  | ok a | threw e => exact ⟨hrefl s, trivial⟩
  | atom f k ih =>
    obtain ⟨hstep, hI'⟩ := h.1 s hI
    obtain ⟨hrest, hwaiting⟩ := ih s (n := n) (s := f s) hI' (h.2 s)
    exact ⟨htrans _ _ _ hstep hrest, hwaiting⟩
  | call e k ih =>
    unfold Thread.settle
    by_cases hinstant : instant e = true
    · rw [if_pos hinstant]
      have hk := h (o n e)
      rw [if_pos hinstant] at hk
      exact ih _ hI hk
    · rw [if_neg hinstant]
      refine ⟨hrefl s, fun r => ?_⟩
      have hk := h r
      rw [if_neg hinstant] at hk
      exact hk

end Paced

end Thread

end ContextLock.Machine
