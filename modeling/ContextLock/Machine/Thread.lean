/-
  Subject:   Computations that share a state and take turns at their awaits.

  A thread reads and writes a state that it shares with other threads. It runs by itself until
  it awaits the answer to a call; then any other thread may run. Calls that are instant (a clock,
  a draw of random bytes) are answered without giving way. What the outside answers is an oracle,
  so a statement about all oracles is one about every outside.
-/
import ContextLock.Machine.Transition

namespace ContextLock.Machine

/-! ## 1. Threads -/

/-- A computation over a shared state `σ`, with calls `E` answered by `R e` and errors `ε`. -/
inductive Thread (σ E : Type) (R : E → Type) (ε α : Type) where
  | ok (a : α)
  | threw (e : ε)
  /-- Apply `f` to the shared state, and go on with the state as it was before. -/
  | atom (f : σ → σ) (k : σ → Thread σ E R ε α)
  | call (e : E) (k : R e → Thread σ E R ε α)

variable {σ E : Type} {R : E → Type} {ε α β : Type}

namespace Thread

/-- `p`, and then `f` on the value it ended with. -/
def bind (p : Thread σ E R ε α) (f : α → Thread σ E R ε β) : Thread σ E R ε β :=
  match p with
  | ok a => f a
  | threw e => threw e
  | atom g k => atom g fun s => (k s).bind f
  | call e k => call e fun r => (k r).bind f

/-- `p`, with an error as its value. -/
def attempt : Thread σ E R ε α → Thread σ E R ε (Except ε α)
  | ok a => ok (.ok a)
  | threw e => ok (.error e)
  | atom g k => atom g fun s => (k s).attempt
  | call e k => call e fun r => (k r).attempt

instance instMonadThread : Monad (Thread σ E R ε) where
  pure := ok
  bind := bind

def read : Thread σ E R ε σ := atom id ok

/-- Write the shared state. -/
def update (f : σ → σ) : Thread σ E R ε Unit := atom f fun _ => ok ()

/-- Make a call. -/
def ask (e : E) : Thread σ E R ε (R e) := call e ok

/-- The value of a computation without calls, or its error. -/
def lift : Except ε α → Thread σ E R ε α
  | .ok a => ok a
  | .error e => threw e

@[simp] theorem pure_eq (a : α) : (pure a : Thread σ E R ε α) = ok a := rfl

@[simp] theorem bind_eq (p : Thread σ E R ε α) (f : α → Thread σ E R ε β) : p >>= f = p.bind f := rfl

@[simp] theorem bind_ok (a : α) (f : α → Thread σ E R ε β) : (ok a).bind f = f a := rfl

@[simp] theorem bind_threw (e : ε) (f : α → Thread σ E R ε β) : (threw e).bind f = threw e := rfl

@[simp] theorem bind_atom (g : σ → σ) (k : σ → Thread σ E R ε α) (f : α → Thread σ E R ε β) :
    (atom g k).bind f = atom g fun s => (k s).bind f := rfl

@[simp] theorem bind_call (e : E) (k : R e → Thread σ E R ε α) (f : α → Thread σ E R ε β) :
    (call e k).bind f = call e fun r => (k r).bind f := rfl

@[simp] theorem attempt_ok (a : α) : (ok a : Thread σ E R ε α).attempt = ok (.ok a) := rfl

@[simp] theorem attempt_threw (e : ε) : (threw e : Thread σ E R ε α).attempt = ok (.error e) := rfl

@[simp] theorem attempt_atom (g : σ → σ) (k : σ → Thread σ E R ε α) :
    (atom g k).attempt = atom g fun s => (k s).attempt := rfl

@[simp] theorem attempt_call (e : E) (k : R e → Thread σ E R ε α) :
    (call e k).attempt = call e fun r => (k r).attempt := rfl

/-! ## 2. Up to the next await -/

/-- What the outside answers: `o n e` to the `n`th question of a turn, if it is `e`. -/
abbrev Oracle (R : E → Type) := Nat → (e : E) → R e

/-- The thread run up to its next await or its end, and the state it leaves. -/
def settle (instant : E → Bool) (o : Oracle R) : Nat → Thread σ E R ε α → σ → Thread σ E R ε α × σ
  | _, ok a, s => (ok a, s)
  | _, threw e, s => (threw e, s)
  | n, atom f k, s => (k s).settle instant o n (f s)
  | n, call e k, s => if instant e then (k (o n e)).settle instant o (n + 1) s else (call e k, s)

/-- The thread run to its end by itself. -/
def run (o : Oracle R) : Nat → Thread σ E R ε α → σ → Except ε α × σ
  | _, ok a, s => (.ok a, s)
  | _, threw e, s => (.error e, s)
  | n, atom f k, s => (k s).run o n (f s)
  | n, call e k, s => (k (o n e)).run o (n + 1) s

/-- The thread ended, or it awaits a call that is not instant. -/
def Settled (instant : E → Bool) : Thread σ E R ε α → Prop
  | ok _ => True
  | threw _ => True
  | atom _ _ => False
  | call e _ => instant e = false

/-- The thread awaits nothing. -/
def ended : Thread σ E R ε α → Bool
  | ok _ => true
  | threw _ => true
  | _ => false

section Settle

variable {instant : E → Bool} {o : Oracle R}

theorem settled_settle (p : Thread σ E R ε α) (n : Nat) (s : σ) :
    (p.settle instant o n s).1.Settled instant := by
  induction p generalizing n s with
  | ok a => trivial
  | threw e => trivial
  | atom f k ih => exact ih s n (f s)
  | call e k ih =>
    unfold settle
    by_cases h : instant e = true
    · rw [if_pos h]
      exact ih _ _ _
    · rw [if_neg h]
      exact Bool.eq_false_iff.mpr h

end Settle

end Thread

/-! ## 3. Threads that keep a law -/

/-- What every state is to satisfy, how a thread may change it, and what a thread relies on of the
    others while it waits. -/
structure Law (σ : Type) where
  inv : σ → Prop
  guar : σ → σ → Prop
  rely : σ → σ → Prop
  refl : ∀ s, guar s s
  trans : ∀ s t u, guar s t → guar t u → guar s u
  rely_trans : ∀ s t u, rely s t → rely t u → rely s u
  sub : ∀ s t, guar s t → rely s t

theorem Law.rely_refl (L : Law σ) (s : σ) : L.rely s s := L.sub s s (L.refl s)

namespace Thread

variable {instant : E → Bool} {L : Law σ}

/-- Every update of the thread keeps the law, whatever the others do within what it relies on while
    it awaits a call that is not instant; it ends with `Q` or, where it throws, with `T`. -/
def Safe (instant : E → Bool) (L : Law σ) (Q : α → σ → Prop) (T : ε → σ → Prop) :
    Thread σ E R ε α → σ → Prop
  | ok a, s => Q a s
  | threw e, s => T e s
  | atom f k, s => L.inv (f s) ∧ L.guar s (f s) ∧ (k s).Safe instant L Q T (f s)
  | call e k, s => ∀ r s', (instant e = true → s' = s) → L.inv s' → L.rely s s' →
      (k r).Safe instant L Q T s'

namespace Safe

variable {Q Q' : α → σ → Prop} {T T' : ε → σ → Prop} {p : Thread σ E R ε α} {s s' : σ}

theorem mono (h : p.Safe instant L Q T s) (hQ : ∀ a s, Q a s → Q' a s)
    (hT : ∀ e s, T e s → T' e s) : p.Safe instant L Q' T' s := by
  induction p generalizing s with
  | ok a => exact hQ a s h
  | threw e => exact hT e s h
  | atom f k ih => exact ⟨h.1, h.2.1, ih s h.2.2⟩
  | call e k ih => exact fun r s' hinstant hinv hrely => ih r (h r s' hinstant hinv hrely)

/-- **Sequencing.** -/
theorem bind {Q : β → σ → Prop} {f : α → Thread σ E R ε β}
    (h : p.Safe instant L (fun a s => (f a).Safe instant L Q T s) T s) :
    (p.bind f).Safe instant L Q T s := by
  induction p generalizing s with
  | ok a => exact h
  | threw e => exact h
  | atom g k ih => exact ⟨h.1, h.2.1, ih s h.2.2⟩
  | call e k ih => exact fun r s' hinstant hinv hrely => ih r (h r s' hinstant hinv hrely)

/-- **Caught errors.** -/
theorem attempt {Q : Except ε α → σ → Prop}
    (h : p.Safe instant L (fun a => Q (.ok a)) (fun e => Q (.error e)) s) :
    p.attempt.Safe instant L Q T s := by
  induction p generalizing s with
  | ok a => exact h
  | threw e => exact h
  | atom g k ih => exact ⟨h.1, h.2.1, ih s h.2.2⟩
  | call e k ih => exact fun r s' hinstant hinv hrely => ih r (h r s' hinstant hinv hrely)

theorem read {Q : σ → σ → Prop} (hinv : L.inv s) (h : Q s s) :
    (Thread.read : Thread σ E R ε σ).Safe instant L Q T s :=
  ⟨hinv, L.refl s, h⟩

theorem update {Q : Unit → σ → Prop} {f : σ → σ} (hinv : L.inv (f s)) (hguar : L.guar s (f s))
    (h : Q () (f s)) : (Thread.update f : Thread σ E R ε Unit).Safe instant L Q T s :=
  ⟨hinv, hguar, h⟩

/-- **Not waiting.** An instant answer comes before any other thread runs. -/
theorem answer {e : E} {Q : R e → σ → Prop} (hinstant : instant e = true) (h : ∀ r, Q r s) :
    (Thread.ask e : Thread σ E R ε (R e)).Safe instant L Q T s := by
  intro r s' hsame _ _
  rw [hsame hinstant]
  exact h r

theorem drift (hsettled : p.Settled instant) (h : p.Safe instant L (fun _ _ => True) (fun _ _ => True) s)
    (hrely : L.rely s s') :
    p.Safe instant L (fun _ _ => True) (fun _ _ => True) s' := by
  cases p with
  | ok a => trivial
  | threw e => trivial
  | atom f k => exact hsettled.elim
  | call e k =>
    intro r s'' hinstant hinv hrely'
    have hfalse : instant e = false := hsettled
    refine h r s'' (fun htrue => ?_) hinv (L.rely_trans _ _ _ hrely hrely')
    rw [hfalse] at htrue
    cases htrue

/-- **One turn** of a safe thread keeps the law. -/
theorem settle {o : Oracle R} {n : Nat} (hinv : L.inv s) (h : p.Safe instant L Q T s) :
    L.inv (p.settle instant o n s).2 ∧ L.guar s (p.settle instant o n s).2 ∧
      (p.settle instant o n s).1.Safe instant L Q T (p.settle instant o n s).2 := by
  induction p generalizing n s with
  | ok a | threw e => exact ⟨hinv, L.refl s, h⟩
  | atom f k ih =>
    obtain ⟨hinv', hguar, hk⟩ := h
    obtain ⟨hi, hr, hs⟩ := @ih s (f s) n hinv' hk
    exact ⟨hi, L.trans _ _ _ hguar hr, hs⟩
  | call e k ih =>
    unfold Thread.settle
    by_cases hinstant : instant e = true
    · rw [if_pos hinstant]
      exact ih _ hinv (h _ s (fun _ => rfl) hinv (L.rely_refl s))
    · rw [if_neg hinstant]
      exact ⟨hinv, L.refl s, h⟩

end Safe

end Thread

/-! ## 4. Threads whose updates are of one kind -/

namespace Thread

/-- Every update of the thread changes the state as `P` says, whatever is answered. -/
def Within (P : σ → σ → Prop) : Thread σ E R ε α → Prop
  | ok _ => True
  | threw _ => True
  | atom f k => (∀ s, P s (f s)) ∧ ∀ s, (k s).Within P
  | call _ k => ∀ r, (k r).Within P

namespace Within

variable {P P' : σ → σ → Prop} {p : Thread σ E R ε α}

theorem mono (h : p.Within P) (hP : ∀ s s', P s s' → P' s s') : p.Within P' := by
  induction p with
  | ok a => trivial
  | threw e => trivial
  | atom f k ih => exact ⟨fun s => hP s (f s) (h.1 s), fun s => ih s (h.2 s)⟩
  | call e k ih => exact fun r => ih r (h r)

theorem bind {f : α → Thread σ E R ε β} (h : p.Within P) (hf : ∀ a, (f a).Within P) :
    (p >>= f).Within P := by
  rw [bind_eq]
  induction p with
  | ok a => exact hf a
  | threw e => trivial
  | atom g k ih => exact ⟨h.1, fun s => ih s (h.2 s)⟩
  | call e k ih => exact fun r => ih r (h r)

theorem attempt (h : p.Within P) : p.attempt.Within P := by
  induction p with
  | ok a => trivial
  | threw e => trivial
  | atom g k ih => exact ⟨h.1, fun s => ih s (h.2 s)⟩
  | call e k ih => exact fun r => ih r (h r)

theorem read (h : ∀ s, P s s) : (Thread.read : Thread σ E R ε σ).Within P :=
  ⟨h, fun _ => trivial⟩

theorem update {f : σ → σ} (h : ∀ s, P s (f s)) :
    (Thread.update f : Thread σ E R ε Unit).Within P :=
  ⟨h, fun _ => trivial⟩

theorem ask (e : E) : (Thread.ask e : Thread σ E R ε (R e)).Within P := fun _ => trivial

theorem forM {f : β → Thread σ E R ε PUnit} (h : ∀ x, (f x).Within P) (xs : List β) :
    (xs.forM f).Within P := by
  induction xs with
  | nil => trivial
  | cons x xs ih => exact bind (h x) fun _ => ih

theorem ite {c : Prop} [Decidable c] {q : Thread σ E R ε α} (hp : p.Within P) (hq : q.Within P) :
    (if c then p else q).Within P := by
  by_cases hc : c
  · rw [if_pos hc]
    exact hp
  · rw [if_neg hc]
    exact hq

/-- **One turn** of such a thread, and what is left of it. -/
theorem settle {instant : E → Bool} {o : Oracle R} {n : Nat} {s : σ} (hrefl : ∀ s, P s s)
    (htrans : ∀ s t u, P s t → P t u → P s u) (h : p.Within P) :
    P s (p.settle instant o n s).2 ∧ (p.settle instant o n s).1.Within P := by
  induction p generalizing n s with
  | ok a | threw e => exact ⟨hrefl s, trivial⟩
  | atom f k ih =>
    obtain ⟨hstep, hrest⟩ := ih s (n := n) (s := f s) (h.2 s)
    exact ⟨htrans _ _ _ (h.1 s) hstep, hrest⟩
  | call e k ih =>
    unfold Thread.settle
    by_cases hinstant : instant e = true
    · rw [if_pos hinstant]
      exact ih _ (h _)
    · rw [if_neg hinstant]
      exact ⟨hrefl s, h⟩

/-- **A thread of harmless updates does its part**, and keeps what the others keep as well. -/
theorem safe {instant : E → Bool} {L : Law σ} {I : σ → Prop} {s : σ} (h : p.Within P)
    (hstep : ∀ s s', I s → L.inv s → P s s' → L.inv s' ∧ L.guar s s' ∧ I s')
    (hrely : ∀ s s', I s → L.inv s' → L.rely s s' → I s') (hI : I s) (hinv : L.inv s) :
    p.Safe instant L (fun _ s' => L.inv s' ∧ I s') (fun _ s' => L.inv s' ∧ I s') s := by
  induction p generalizing s with
  | ok a => exact ⟨hinv, hI⟩
  | threw e => exact ⟨hinv, hI⟩
  | atom f k ih =>
    obtain ⟨hinv', hguar, hI'⟩ := hstep s (f s) hI hinv (h.1 s)
    exact ⟨hinv', hguar, ih s (h.2 s) hI' hinv'⟩
  | call e k ih =>
    intro r s' _ hinv' hrel
    exact ih r (h r) (hrely s s' hI hinv' hrel) hinv'

end Within

end Thread

/-! ## 5. Pools of threads -/

/-- The shared state, and the threads started over it, each with the operation it runs. -/
structure Pool (σ E : Type) (R : E → Type) (ε α Op : Type) where
  shared : σ
  threads : List (Op × Thread σ E R ε α)

/-- A turn: an operation is started, or the `i`th thread gets the answer it awaits. -/
inductive Turn {E : Type} (R : E → Type) (Op : Type) where
  | start (op : Op) (o : Thread.Oracle R)
  | resume (i : Nat) (o : Thread.Oracle R)

namespace Pool

variable {Op : Type} (instant : E → Bool) (program : Op → Thread σ E R ε α)

def answered (o : Thread.Oracle R) : Thread σ E R ε α → Option (Thread σ E R ε α)
  | .call e k => some (k (o 0 e))
  | _ => none

/-- One turn. The answer to the await is the first answer of the turn. -/
def step (p : Pool σ E R ε α Op) : Turn R Op → Option (Pool σ E R ε α Op)
  | .start op o =>
    let t := (program op).settle instant o 0 p.shared
    some ⟨t.2, p.threads ++ [(op, t.1)]⟩
  | .resume i o =>
    match p.threads[i]? with
    | none => none
    | some (op, thread) =>
      match answered o thread with
      | none => none
      | some rest =>
        let t := rest.settle instant o 1 p.shared
        some ⟨t.2, p.threads.set i (op, t.1)⟩

/-- The pool before anything was started. -/
def idle (s : σ) : Pool σ E R ε α Op := ⟨s, []⟩

variable {instant program} {p p' : Pool σ E R ε α Op} 

/-- **What a turn does**: one thread runs up to its next await, and the others stay. -/
theorem step_cases {turn : Turn R Op} (h : step instant program p turn = some p') :
    (∃ op o, turn = .start op o ∧
      p' = ⟨((program op).settle instant o 0 p.shared).2,
        p.threads ++ [(op, ((program op).settle instant o 0 p.shared).1)]⟩) ∨
    ∃ i o op e, ∃ k : R e → Thread σ E R ε α, turn = .resume i o ∧
      p.threads[i]? = some (op, .call e k) ∧
      p' = ⟨((k (o 0 e)).settle instant o 1 p.shared).2,
        p.threads.set i (op, ((k (o 0 e)).settle instant o 1 p.shared).1)⟩ := by
  cases turn with
  | start op o => exact .inl ⟨op, o, rfl, (Option.some.inj h).symm⟩
  | resume i o =>
    simp only [step] at h
    cases hthread : p.threads[i]? with
    | none =>
      rw [hthread] at h
      cases h
    | some entry =>
      obtain ⟨op, thread⟩ := entry
      rw [hthread] at h
      cases thread with
      | ok a => cases h
      | threw e => cases h
      | atom f k => cases h
      | call e k => exact .inr ⟨i, o, op, e, k, rfl, hthread, (Option.some.inj h).symm⟩

/-- The laws of the operations: they share what every state satisfies and what a thread may do, and
    differ in what the operation relies on. -/
structure Contract (σ Op : Type) where
  inv : σ → Prop
  guar : σ → σ → Prop
  rely : Op → σ → σ → Prop
  refl : ∀ s, guar s s
  trans : ∀ s t u, guar s t → guar t u → guar s u
  rely_trans : ∀ op s t u, rely op s t → rely op t u → rely op s u
  sub : ∀ op s t, guar s t → rely op s t

def Contract.law (C : Contract σ Op) (op : Op) : Law σ :=
  ⟨C.inv, C.guar, C.rely op, C.refl, C.trans, C.rely_trans op, C.sub op⟩

/-- Every operation relies on what every thread may do. -/
def Contract.common (Op : Type) (inv : σ → Prop) (guar : σ → σ → Prop) (refl : ∀ s, guar s s)
    (trans : ∀ s t u, guar s t → guar t u → guar s u) : Contract σ Op :=
  ⟨inv, guar, fun _ => guar, refl, trans, fun _ => trans, fun _ _ _ h => h⟩

variable {C : Contract σ Op}

/-- The state is lawful, and every thread waits and will do its part. -/
structure Lawful (instant : E → Bool) (C : Contract σ Op) (p : Pool σ E R ε α Op) : Prop where
  inv : C.inv p.shared
  settled : ∀ entry ∈ p.threads, entry.2.Settled instant
  safe : ∀ entry ∈ p.threads,
    entry.2.Safe instant (C.law entry.1) (fun _ _ => True) (fun _ _ => True) p.shared

theorem lawful_idle {s : σ} (h : C.inv s) :
    (idle s : Pool σ E R ε α Op).Lawful instant C :=
  ⟨h, fun _ hmem => absurd hmem List.not_mem_nil, fun _ hmem => absurd hmem List.not_mem_nil⟩

/-- The first turn of an operation leaves a lawful state and its thread doing its part, and does
    nothing that a waiting thread relies on not being done. -/
structure Starts (instant : E → Bool) (program : Op → Thread σ E R ε α) (C : Contract σ Op)
    (p : Pool σ E R ε α Op) (op : Op) (o : Thread.Oracle R) : Prop where
  inv : C.inv ((program op).settle instant o 0 p.shared).2
  safe : ((program op).settle instant o 0 p.shared).1.Safe instant (C.law op) (fun _ _ => True)
    (fun _ _ => True) ((program op).settle instant o 0 p.shared).2
  rely : ∀ entry ∈ p.threads, entry.2.ended = false →
    C.rely entry.1 p.shared ((program op).settle instant o 0 p.shared).2

theorem starts_of_safe {op : Op} {o : Thread.Oracle R} (hinv : C.inv p.shared)
    (h : (program op).Safe instant (C.law op) (fun _ _ => True) (fun _ _ => True) p.shared) :
    p.Starts instant program C op o := by
  obtain ⟨hinv', hguar, hsafe⟩ := Thread.Safe.settle (o := o) (n := 0) hinv h
  exact ⟨hinv', hsafe, fun entry _ _ => C.sub entry.1 _ _ hguar⟩

/-- What waits stays safe over a turn that does nothing it relies on not being done. -/
theorem safe_of_rely {entry : Op × Thread σ E R ε α} {s s' : σ} (hsettled : entry.2.Settled instant)
    (h : entry.2.Safe instant (C.law entry.1) (fun _ _ => True) (fun _ _ => True) s)
    (hrely : entry.2.ended = false → C.rely entry.1 s s') :
    entry.2.Safe instant (C.law entry.1) (fun _ _ => True) (fun _ _ => True) s' := by
  obtain ⟨op, thread⟩ := entry
  cases thread with
  | ok a => trivial
  | threw e => trivial
  | atom f k => exact hsettled.elim
  | call e k => exact h.drift hsettled (hrely rfl)

/-- **One turn** keeps the law, if the operation it starts does its part. -/
theorem lawful_step {turn : Turn R Op} (h : p.Lawful instant C)
    (hstart : ∀ op o, turn = .start op o → p.Starts instant program C op o)
    (hstep : step instant program p turn = some p') : p'.Lawful instant C := by
  rcases step_cases hstep with ⟨op, o, hturn, rfl⟩ | ⟨i, o, op, e, k, -, hi, rfl⟩
  · have hs := hstart op o hturn
    refine ⟨hs.inv, fun entry hentry => ?_, fun entry hentry => ?_⟩
    · rcases List.mem_append.mp hentry with hold | hnew
      · exact h.settled entry hold
      · rw [List.mem_singleton.mp hnew]
        exact Thread.settled_settle _ _ _
    · rcases List.mem_append.mp hentry with hold | hnew
      · exact safe_of_rely (h.settled entry hold) (h.safe entry hold) (hs.rely entry hold)
      · rw [List.mem_singleton.mp hnew]
        exact hs.safe
  · have hmem := List.mem_of_getElem? hi
    have hk : (k (o 0 e)).Safe instant (C.law op) (fun _ _ => True) (fun _ _ => True) p.shared :=
      h.safe _ hmem (o 0 e) p.shared (fun _ => rfl) h.inv ((C.law op).rely_refl _)
    obtain ⟨hinv, hguar, hsafe⟩ := Thread.Safe.settle (o := o) (n := 1) h.inv hk
    refine ⟨hinv, forall_mem_set h.settled (Thread.settled_settle _ _ _),
      forall_mem_set (fun entry hold => ?_) hsafe⟩
    exact safe_of_rely (h.settled entry hold) (h.safe entry hold)
      fun _ => C.sub entry.1 _ _ hguar

/-- **Runs.** If every operation does its part in every lawful pool it is started in, the law
    holds in every run. -/
theorem lawful_reaches {guard : Pool σ E R ε α Op → Turn R Op → Prop}
    [∀ p turn, Decidable (guard p turn)]
    (hstart : ∀ p op o, p.Lawful instant C → guard p (.start op o) →
      p.Starts instant program C op o)
    (h : Reaches (guarded (step instant program) guard) p p') (hp : p.Lawful instant C) :
    p'.Lawful instant C := by
  refine h.invariant (fun p turn p' hlawful hstep => ?_) hp
  obtain ⟨hguard, hstep⟩ := guarded_eq_some.mp hstep
  exact lawful_step hlawful (fun op o hturn => hstart p op o hlawful (hturn ▸ hguard)) hstep

end Pool

end ContextLock.Machine
