/-
  Subject:   Threads that go through stages, and own something in some of them.

  A stage says what the thread may do next and what it waits for. Between its turns the thread
  relies on `waiting`, which the other threads keep; at the beginning of a turn it may rely on more,
  `busy`, where who resumes it sees to that.
-/
import ContextLock.Machine.Owned

namespace ContextLock.Machine

variable {σ E : Type} {R : E → Type} {ε α β Op τ κ : Type}

namespace Thread

/-- From the stage `t` every update moves the thread on as `Moves` allows; where it waits, `Waits`
    holds of what it asks. It ends with `Q` or, where it throws, with `X`. -/
def Staged (Moves : τ → σ → σ → τ → Prop) (Waits : τ → E → Prop) (Q : τ → α → Prop)
    (X : τ → ε → Prop) : τ → Thread σ E R ε α → Prop
  | t, ok a => Q t a
  | t, threw e => X t e
  | t, atom f k => ∀ s, ∃ t', Moves t s (f s) t' ∧ (k s).Staged Moves Waits Q X t'
  | t, call e k => Waits t e ∧ ∀ r, (k r).Staged Moves Waits Q X t

namespace Staged

variable {Moves : τ → σ → σ → τ → Prop} {Waits : τ → E → Prop} {Q Q' : τ → α → Prop}
  {X X' : τ → ε → Prop} {t : τ} {p : Thread σ E R ε α}

theorem mono (h : p.Staged Moves Waits Q X t) (hQ : ∀ t a, Q t a → Q' t a)
    (hX : ∀ t e, X t e → X' t e) : p.Staged Moves Waits Q' X' t := by
  induction p generalizing t with
  | ok a => exact hQ t a h
  | threw e => exact hX t e h
  | atom f k ih =>
    intro s
    obtain ⟨t', hmove, hk⟩ := h s
    exact ⟨t', hmove, ih s hk⟩
  | call e k ih => exact ⟨h.1, fun r => ih r (h.2 r)⟩

/-- **Sequencing.** -/
theorem bind {Q : τ → β → Prop} {f : α → Thread σ E R ε β}
    (h : p.Staged Moves Waits (fun t a => (f a).Staged Moves Waits Q X t) X t) :
    (p >>= f).Staged Moves Waits Q X t := by
  rw [bind_eq]
  induction p generalizing t with
  | ok a => exact h
  | threw e => exact h
  | atom g k ih =>
    intro s
    obtain ⟨t', hmove, hk⟩ := h s
    exact ⟨t', hmove, ih s hk⟩
  | call e k ih => exact ⟨h.1, fun r => ih r (h.2 r)⟩

/-- **Caught errors.** -/
theorem attempt {Q : τ → Except ε α → Prop}
    (h : p.Staged Moves Waits (fun t a => Q t (.ok a)) (fun t e => Q t (.error e)) t) :
    p.attempt.Staged Moves Waits Q X t := by
  induction p generalizing t with
  | ok a => exact h
  | threw e => exact h
  | atom g k ih =>
    intro s
    obtain ⟨t', hmove, hk⟩ := h s
    exact ⟨t', hmove, ih s hk⟩
  | call e k ih => exact ⟨h.1, fun r => ih r (h.2 r)⟩

theorem update {Q : τ → Unit → Prop} {f : σ → σ} (t' : τ) (hf : ∀ s, Moves t s (f s) t')
    (h : Q t' ()) : (Thread.update f : Thread σ E R ε Unit).Staged Moves Waits Q X t :=
  fun s => ⟨t', hf s, h⟩

theorem read {Q : τ → σ → Prop} (h : ∀ s, ∃ t', Moves t s s t' ∧ Q t' s) :
    (Thread.read : Thread σ E R ε σ).Staged Moves Waits Q X t :=
  h

theorem ask {e : E} {Q : τ → R e → Prop} (hwaits : Waits t e) (h : ∀ r, Q t r) :
    (Thread.ask e : Thread σ E R ε (R e)).Staged Moves Waits Q X t :=
  ⟨hwaits, h⟩

theorem lift {x : Except ε α} (hQ : ∀ a, Q t a) (hX : ∀ e, X t e) :
    (Thread.lift x : Thread σ E R ε α).Staged Moves Waits Q X t := by
  cases x with
  | ok a => exact hQ a
  | error e => exact hX e

theorem of_within {P : σ → σ → Prop} (hP : ∀ s s', P s s' → Moves t s s' t)
    (hwaits : ∀ e, Waits t e) (h : p.Within P) (hQ : ∀ a, Q t a) (hX : ∀ e, X t e) :
    p.Staged Moves Waits Q X t := by
  induction p with
  | ok a => exact hQ a
  | threw e => exact hX e
  | atom f k ih => exact fun s => ⟨t, hP s _ (h.1 s), ih s (h.2 s)⟩
  | call e k ih => exact ⟨hwaits e, fun r => ih r (h r)⟩

/-- **One turn** keeps what every move keeps. -/
theorem settle {instant : E → Bool} {o : Oracle R} {n : Nat} {s : σ} {J : τ → σ → Prop}
    (hJ : ∀ t s s' t', Moves t s s' t' → J t s → J t' s') (h : J t s)
    (hp : p.Staged Moves Waits Q X t) :
    ∃ t', J t' (p.settle instant o n s).2 ∧
      (p.settle instant o n s).1.Staged Moves Waits Q X t' := by
  induction p generalizing n s t with
  | ok a => exact ⟨t, h, hp⟩
  | threw e => exact ⟨t, h, hp⟩
  | atom f k ih =>
    obtain ⟨t', hmove, hk⟩ := hp s
    exact ih s (hJ t s (f s) t' hmove h) hk
  | call e k ih =>
    unfold Thread.settle
    by_cases hinstant : instant e = true
    · rw [if_pos hinstant]
      exact ih _ h (hp.2 _)
    · rw [if_neg hinstant]
      exact ⟨t, h, hp⟩

end Staged

end Thread

namespace Pool

/-- Two stages own different things. -/
def Apart (key : τ → Option κ) (u t : τ) : Prop := ∀ k, key u = some k → key t ≠ some k

/-- What every move keeps: the state, what the thread relies on in its turn, and what the others
    rely on while they wait and own something else. -/
structure Rules (Moves : τ → σ → σ → τ → Prop) (key : τ → Option κ) (inv : σ → Prop)
    (busy waiting : τ → σ → Prop) : Prop where
  move : ∀ t s s' t', Moves t s s' t' → inv s → busy t s →
    inv s' ∧ busy t' s' ∧
      ∀ u, waiting u s → Apart key u t → waiting u s' ∧ Apart key u t'
  waits : ∀ t s, inv s → busy t s → waiting t s

def AtStage (Moves : τ → σ → σ → τ → Prop) (Waits : τ → E → Prop) (waiting : τ → σ → Prop) (s : σ)
    (entry : Op × Thread σ E R ε α) (t : τ) : Prop :=
  entry.2.Staged Moves Waits (fun _ _ => True) (fun _ _ => True) t ∧ waiting t s

/-- The state is as it should be, and so is every thread. -/
structure Orderly (Moves : τ → σ → σ → τ → Prop) (Waits : τ → E → Prop) (key : τ → Option κ)
    (inv : σ → Prop) (waiting : τ → σ → Prop) (p : Pool σ E R ε α Op) : Prop where
  inv : inv p.shared
  owned : ∃ owner, Owned key (AtStage Moves Waits waiting) p owner

variable {Moves : τ → σ → σ → τ → Prop} {Waits : τ → E → Prop} {key : τ → Option κ}
  {inv : σ → Prop} {busy waiting : τ → σ → Prop} {instant : E → Bool}
  {program : Op → Thread σ E R ε α} {p p' : Pool σ E R ε α Op}

theorem orderly_idle {s : σ} {t : τ} (h : inv s) (ht : key t = none) :
    Orderly Moves Waits key inv waiting (Pool.idle s : Pool σ E R ε α Op) :=
  ⟨h, _, Owned.idle s ht⟩

/-- What a turn of a thread keeps, from the state and the stage in which it began. -/
structure Kept (key : τ → Option κ) (inv : σ → Prop) (busy waiting : τ → σ → Prop) (s : σ) (t : τ)
    (t' : τ) (s' : σ) : Prop where
  inv : inv s'
  busy : busy t' s'
  others : ∀ u, waiting u s → Apart key u t → waiting u s' ∧ Apart key u t'

/-- **One turn of one thread.** -/
theorem Rules.settle (h : Rules Moves key inv busy waiting) {q : Thread σ E R ε α} {t : τ} {s : σ}
    {o : Thread.Oracle R} {n : Nat} (hinv : inv s) (hbusy : busy t s)
    (hq : q.Staged Moves Waits (fun _ _ => True) (fun _ _ => True) t) :
    ∃ t', Kept key inv busy waiting s t t' (q.settle instant o n s).2 ∧
      (q.settle instant o n s).1.Staged Moves Waits (fun _ _ => True) (fun _ _ => True) t' := by
  have hstart : Kept key inv busy waiting s t t s := ⟨hinv, hbusy, fun u hu hapart => ⟨hu, hapart⟩⟩
  refine hq.settle (fun t₁ s₁ s₂ t₂ hmove hkept => ?_) hstart
  obtain ⟨hinv', hbusy', hothers⟩ := h.move t₁ s₁ s₂ t₂ hmove hkept.inv hkept.busy
  refine ⟨hinv', hbusy', fun u hu hapart => ?_⟩
  obtain ⟨hu', hapart'⟩ := hkept.others u hu hapart
  exact hothers u hu' hapart'

/-- **One turn of the pool**, if the thread it starts is at a stage that owns nothing, and the one
    it resumes may rely on what its stage says. -/
theorem orderly_step (hrules : Rules Moves key inv busy waiting)
    (h : Orderly Moves Waits key inv waiting p) {turn : Turn R Op}
    (hstart : ∀ op o, turn = .start op o → ∃ t, key t = none ∧ busy t p.shared ∧
      (program op).Staged Moves Waits (fun _ _ => True) (fun _ _ => True) t)
    (hresume : ∀ i o op e, ∀ k : R e → Thread σ E R ε α, ∀ t, turn = .resume i o →
      p.threads[i]? = some (op, .call e k) → Waits t e → waiting t p.shared → busy t p.shared)
    (hstep : step instant program p turn = some p') :
    Orderly Moves Waits key inv waiting p' := by
  obtain ⟨owner, howned⟩ := h.owned
  rcases step_cases hstep with ⟨op, o, hturn, rfl⟩ | ⟨i, o, op, e, k, hturn, hi, rfl⟩
  · obtain ⟨t, hkey, hbusy, hstaged⟩ := hstart op o hturn
    have hnothing : ∀ u, Apart key u t := by
      intro u k _ hsame
      rw [hkey] at hsame
      cases hsame
    obtain ⟨t', hkept, hrest⟩ := hrules.settle (o := o) (n := 0) h.inv hbusy
      hstaged
    refine ⟨hkept.inv, _, howned.start (t := t') ⟨hrest, hrules.waits _ _ hkept.inv hkept.busy⟩
      (fun k hk => howned.unowned fun entry u hu hsame => ?_) fun other u hu _ => ?_⟩
    · exact (hkept.others u hu.2 (hnothing u)).2 k hsame hk
    · exact ⟨hu.1, (hkept.others u hu.2 (hnothing u)).1⟩
  · have hlt := (List.getElem?_eq_some_iff.mp hi).1
    obtain ⟨hcall, hwaiting⟩ := howned.holds i _ hi
    have hbusy := hresume i o op e k (owner i) hturn hi hcall.1 hwaiting
    obtain ⟨t', hkept, hrest⟩ := hrules.settle (o := o) (n := 1) h.inv hbusy
      (hcall.2 (o 0 e))
    refine ⟨hkept.inv, _, howned.set (t := t') hlt
      ⟨hrest, hrules.waits _ _ hkept.inv hkept.busy⟩ (fun k hk j hji hsame => ?_)
      fun other u hu hapart => ?_⟩
    · have hj : j < p.threads.length := by
        by_cases hj : j < p.threads.length
        · exact hj
        · rw [howned.fresh j (by omega)] at hsame
          cases hsame
      have hheld := howned.holds j _ (List.getElem?_eq_getElem hj)
      have hapart : Apart key (owner j) (owner i) :=
        fun k hk hk' => hji (howned.apart j i k hk hk')
      exact (hkept.others _ hheld.2 hapart).2 k hsame hk
    · have hapart' : Apart key u (owner i) := fun k hk => (hapart k hk).1
      exact ⟨hu.1, (hkept.others u hu.2 hapart').1⟩

end Pool

end ContextLock.Machine
